import Mathlib.Data.List.Nodup
import RpcServer.Json.Node
import RpcServer.Proofs.JsonLexing

/-! Reading undoes printing. The tokens of a printed value build its tree, and the tree has the same
value, with its fields in their order. -/

namespace RpcServer.Json

def itemsText (vs : List Json) : List Char := vs.flatMap fun v => ',' :: v.render

lemma emitItems_eq (done : List Char) (vs : List Json) :
    emitItems done vs = (itemsText vs).reverse ++ done := by
  induction vs generalizing done with
  | nil => rfl
  | cons v vs ih =>
    rw [emitItems, emit_eq, ih]
    simp [itemsText]

lemma render_array_cons (v : Json) (vs : List Json) :
    (array (v :: vs)).render = '[' :: v.render ++ itemsText vs ++ [']'] := by
  rw [render, emit, emit_eq, emitItems_eq]
  simp

lemma render_string (s : String) : (string s).render = renderString s := by
  simp [render, emit]

lemma setField_of_not_mem {name : String} {fs : List (String × Json)}
    (h : name ∉ fs.map (·.1)) (v : Json) : setField name v fs = fs ++ [(name, v)] := by
  induction fs with
  | nil => rfl
  | cons f fs ih =>
    obtain ⟨hf, hfs⟩ := not_or.mp (mt List.mem_cons.mpr h)
    rw [setField, if_neg (Ne.symm hf), ih hfs, List.cons_append]

/-- Values of at most so many levels, with the names of each object apart. -/
inductive Fits : ℕ → Json → Prop where
  | null {d : ℕ} : Fits d .null
  | bool {d : ℕ} (b : Bool) : Fits d (.bool b)
  | number {d : ℕ} (n : Number) : Fits d (.number n)
  | string {d : ℕ} (s : String) : Fits d (.string s)
  | array {d : ℕ} {vs : List Json} (h : ∀ v ∈ vs, Fits d v) : Fits (d + 1) (.array vs)
  | object {d : ℕ} {fs : List (String × Json)} (hn : (fs.map (·.1)).Nodup)
      (h : ∀ f ∈ fs, Fits d f.2) : Fits (d + 1) (.object fs)

/-- Values all numbers of which are whole and fit a word, with or without a sign. -/
inductive Integral : Json → Prop where
  | null : Integral .null
  | bool (b : Bool) : Integral (.bool b)
  | int {n : ℤ} (hlo : lowest ≤ n) (hhi : n ≤ highest) : Integral (.int n)
  | string (s : String) : Integral (.string s)
  | array {vs : List Json} (h : ∀ v ∈ vs, Integral v) : Integral (.array vs)
  | object {fs : List (String × Json)} (h : ∀ f ∈ fs, Integral f.2) : Integral (.object fs)

namespace Node

def Made (ts : List Token) (n : Node) : Prop :=
  ∀ around, ts.foldlM step (.value around) = supply n around

variable {ts : List Token} {n : Node}

lemma made_token {t : Token} (h : ∀ around, beginValue around t = supply n around) :
    Made [t] n := by
  intro around
  rw [foldlM_single, step, h]

lemma Made.first (h : Made ts n) (around : List Open) :
    ts.foldlM step (.first (.array [] :: around)) = some (.next (.array [n] :: around)) := by
  cases ts with
  | nil => cases h []
  | cons t ts =>
    have ht : t ≠ .closeArray := by
      rintro rfl
      cases h []
    have hs := h (.array [] :: around)
    rw [List.foldlM_cons] at hs ⊢
    rw [step, if_neg ht]
    exact hs

lemma Made.member (h : Made ts n) (fields : List (Option String × Node)) (name : Option String)
    (around : List Open) :
    (.string name :: .colon :: ts).foldlM step (.name (.object fields :: around)) =
        some (.next (.object ((name, n) :: fields) :: around)) ∧
      (.string name :: .colon :: ts).foldlM step (.first (.object fields :: around)) =
        some (.next (.object ((name, n) :: fields) :: around)) :=
  ⟨h (.member fields name :: around), h (.member fields name :: around)⟩

lemma items?_of_forall₂ {d : ℕ} {vs : List Json} {ns : List Node}
    (h : List.Forall₂ (fun v n => value? d n = some v) vs ns) (done : List Json) :
    items? d done ns = some (done.reverse ++ vs) := by
  induction h generalizing done with
  | nil => rw [items?, List.append_nil]
  | @cons v n vs ns hv _ ih =>
    simp only [items?, hv]
    rw [ih, List.reverse_cons, List.append_assoc, List.singleton_append]

def Holds (d : ℕ) (f : String × Json) (m : Option String × Node) : Prop :=
  m.1 = some f.1 ∧ value? d m.2 = some f.2

lemma fields?_of_forall₂ {d : ℕ} {fs : List (String × Json)} {ms : List (Option String × Node)}
    (h : List.Forall₂ (Holds d) fs ms) (done : List (String × Json))
    (hn : ((done ++ fs).map (·.1)).Nodup) : fields? d done ms = some (done ++ fs) := by
  induction h generalizing done with
  | nil => rw [fields?, List.append_nil]
  | @cons f m fs ms hm _ ih =>
    obtain ⟨name, n⟩ := m
    obtain ⟨rfl, hv⟩ := hm
    have hf : f.1 ∉ done.map (·.1) := by
      rw [List.map_append, List.map_cons, List.nodup_middle, List.nodup_cons] at hn
      exact fun h => hn.1 (List.mem_append_left _ h)
    simp only [fields?, hv]
    rw [setField_of_not_mem hf, ih _ (by simpa using hn), List.append_assoc, List.singleton_append]

end Node

open Node

def Reads (d : ℕ) (v : Json) : Prop :=
  ∃ ts n, Lexes v.render ts ∧ Made ts n ∧ value? d n = some v

lemma reads_items {d : ℕ} {vs : List Json} (h : ∀ v ∈ vs, Reads d v) :
    ∃ ts ns, Continues (itemsText vs) ts ∧
      (∀ done around, ts.foldlM step (.next (.array done :: around)) =
        some (.next (.array (ns.reverse ++ done) :: around))) ∧
      List.Forall₂ (fun v n => value? d n = some v) vs ns := by
  induction vs with
  | nil => exact ⟨[], [], .nil, fun _ _ => rfl, .nil⟩
  | cons v vs ih =>
    obtain ⟨ts, n, hl, hm, hv⟩ := h v List.mem_cons_self
    obtain ⟨us, ns, hc, hrun, hvs⟩ := ih fun u hu => h u (List.mem_cons_of_mem v hu)
    have hb : Continues (',' :: v.render) (.comma :: ts) := hl.behind rfl
    refine ⟨.comma :: ts ++ us, n :: ns, hb.append hc, fun done around => ?_, .cons hv hvs⟩
    have hitem : (Token.comma :: ts).foldlM step (.next (.array done :: around)) =
        some (.next (.array (n :: done) :: around)) := hm (.array done :: around)
    rw [foldlM_of_steps hitem, hrun, List.reverse_cons, List.append_assoc, List.singleton_append]

lemma reads_field {d : ℕ} {f : String × Json} (h : Reads d f.2) :
    ∃ ts n, Lexes (renderString f.1 ++ ':' :: f.2.render) (.string (some f.1) :: .colon :: ts) ∧
      Made ts n ∧ value? d n = some f.2 := by
  obtain ⟨ts, n, hl, hm, hv⟩ := h
  have hb : Continues (':' :: f.2.render) (.colon :: ts) := hl.behind rfl
  exact ⟨ts, n, (lexes_string f.1).append hb, hm, hv⟩

lemma reads_fields {d : ℕ} {fs : List (String × Json)} (h : ∀ f ∈ fs, Reads d f.2) :
    ∃ ts ms, Continues (fieldsText fs) ts ∧
      (∀ done around, ts.foldlM step (.next (.object done :: around)) =
        some (.next (.object (ms.reverse ++ done) :: around))) ∧
      List.Forall₂ (Holds d) fs ms := by
  induction fs with
  | nil => exact ⟨[], [], .nil, fun _ _ => rfl, .nil⟩
  | cons f fs ih =>
    obtain ⟨ts, n, hl, hm, hv⟩ := reads_field (h f List.mem_cons_self)
    obtain ⟨us, ms, hc, hrun, hfs⟩ := ih fun g hg => h g (List.mem_cons_of_mem f hg)
    have hb : Continues (',' :: (renderString f.1 ++ ':' :: f.2.render)) _ := hl.behind rfl
    refine ⟨_, (some f.1, n) :: ms, hb.append hc, fun done around => ?_, .cons ⟨rfl, hv⟩ hfs⟩
    have hmember := (hm.member done (some f.1) around).1
    have hstart : (Token.comma :: .string (some f.1) :: .colon :: ts).foldlM step
        (.next (.object done :: around)) =
          some (.next (.object ((some f.1, n) :: done) :: around)) := hmember
    rw [foldlM_of_steps hstart, hrun, List.reverse_cons, List.append_assoc,
      List.singleton_append]

lemma reads_array {d : ℕ} {vs : List Json} (h : ∀ v ∈ vs, Reads d v) :
    Reads (d + 1) (.array vs) := by
  cases vs with
  | nil =>
    have hl : Lexes ['[', ']'] [.openArray, .closeArray] :=
      ((continues_mark rfl).append (continues_mark rfl)).lexes
    refine ⟨_, .array [], hl, ?_, rfl⟩
    intro around
    exact foldlM_single step (.first (.array [] :: around)) .closeArray
  | cons v vs =>
    obtain ⟨ts, n, hl, hm, hv⟩ := h v List.mem_cons_self
    obtain ⟨us, ns, hc, hrun, hvs⟩ := reads_items fun u hu => h u (List.mem_cons_of_mem v hu)
    have hopen : Continues ('[' :: v.render) (.openArray :: ts) := hl.behind rfl
    have hclose : Continues [']'] [.closeArray] := continues_mark rfl
    refine ⟨.openArray :: ts ++ us ++ [.closeArray], .array (n :: ns), ?_, ?_, ?_⟩
    · rw [render_array_cons]
      exact ((hopen.append hc).append hclose).lexes
    · intro around
      have hfirst : (Token.openArray :: ts).foldlM step (.value around) =
          some (.next (.array [n] :: around)) := hm.first around
      have hlast : step (.next (.array (ns.reverse ++ [n]) :: around)) .closeArray =
          supply (.array (ns.reverse ++ [n]).reverse) around := rfl
      rw [List.append_assoc, foldlM_of_steps hfirst, foldlM_of_steps (hrun [n] around),
        foldlM_single, hlast, List.reverse_append, List.reverse_reverse, List.reverse_singleton,
        List.singleton_append]
    · rw [value?, items?_of_forall₂ (.cons hv hvs)]
      rfl

lemma reads_members {d : ℕ} {fs : List (String × Json)} (h : ∀ f ∈ fs, Reads d f.2) :
    ∃ ts ms, Lexes (object fs).render ts ∧ Made ts (.object ms) ∧
      List.Forall₂ (Holds d) fs ms := by
  cases fs with
  | nil =>
    have hl : Lexes ['\x7b', '\x7d'] [.openObject, .closeObject] :=
      ((continues_mark rfl).append (continues_mark rfl)).lexes
    refine ⟨_, [], hl, ?_, .nil⟩
    intro around
    exact foldlM_single step (.first (.object [] :: around)) .closeObject
  | cons f fs =>
    obtain ⟨ts, n, hl, hm, hv⟩ := reads_field (h f List.mem_cons_self)
    obtain ⟨us, ms, hc, hrun, hfs⟩ := reads_fields fun g hg => h g (List.mem_cons_of_mem f hg)
    have hopen : Continues ('\x7b' :: (renderString f.1 ++ ':' :: f.2.render))
      (.openObject :: .string (some f.1) :: .colon :: ts) := hl.behind rfl
    have hclose : Continues ['\x7d'] [.closeObject] := continues_mark rfl
    have htext : (object (f :: fs)).render =
        '\x7b' :: (renderString f.1 ++ ':' :: f.2.render) ++ fieldsText fs ++ ['\x7d'] := by
      rw [render_object_cons]
      simp only [List.append_assoc, List.cons_append]
    refine ⟨.openObject :: .string (some f.1) :: .colon :: ts ++ us ++ [.closeObject],
      (some f.1, n) :: ms, ?_, ?_, .cons ⟨rfl, hv⟩ hfs⟩
    · rw [htext]
      exact ((hopen.append hc).append hclose).lexes
    · intro around
      have hfirst : (Token.openObject :: .string (some f.1) :: .colon :: ts).foldlM step
          (.value around) = some (.next (.object [(some f.1, n)] :: around)) :=
        (hm.member [] (some f.1) around).2
      have hlast : step (.next (.object (ms.reverse ++ [(some f.1, n)]) :: around)) .closeObject =
          supply (.object (ms.reverse ++ [(some f.1, n)]).reverse) around := rfl
      rw [List.append_assoc, foldlM_of_steps hfirst, foldlM_of_steps (hrun _ around),
        foldlM_single, hlast, List.reverse_append, List.reverse_reverse, List.reverse_singleton,
        List.singleton_append]

lemma reads_object {d : ℕ} {fs : List (String × Json)} (hn : (fs.map (·.1)).Nodup)
    (h : ∀ f ∈ fs, Reads d f.2) : Reads (d + 1) (.object fs) := by
  obtain ⟨ts, ms, hl, hm, hfs⟩ := reads_members h
  refine ⟨ts, .object ms, hl, hm, ?_⟩
  rw [value?, fields?_of_forall₂ hfs [] hn]
  rfl

lemma isBareChar_of_isIntegerChar {c : Char} (h : isIntegerChar c = true) :
    isBareChar c = true := by
  rcases Bool.or_eq_true _ _ ▸ h with hd | hm
  · have hr : ('0' ≤ c && c ≤ '9') = true := hd
    simp only [isBareChar, hr, Bool.true_or]
  · simp only [isBareChar, hm, Bool.or_true, Bool.true_or]

lemma reads_token {d : ℕ} {v : Json} {t : Token} {n : Node} (hl : Lexes v.render [t])
    (ht : ∀ around, beginValue around t = supply n around) (hv : value? d n = some v) : Reads d v :=
  ⟨[t], n, hl, made_token ht, hv⟩

lemma Fits.reads {d : ℕ} {v : Json} (h : Fits d v) (hi : Integral v) : Reads d v := by
  induction h with
  | null => exact reads_token (lexes_bare rfl rfl) (fun _ => rfl) rfl
  | bool b =>
    cases b with
    | false => exact reads_token (lexes_bare rfl rfl) (fun _ => rfl) rfl
    | true => exact reads_token (lexes_bare rfl rfl) (fun _ => rfl) rfl
  | number n =>
    cases hi with
    | @int n hlo hhi =>
      have hl : Lexes (int n).render [.number (some (.integer n))] := by
        rw [render_int]
        refine lexes_bare (bareToken?_toString hlo hhi) (List.all_eq_true.mpr fun c hc => ?_)
        exact isBareChar_of_isIntegerChar (isIntegerChar_of_mem hc)
      exact reads_token hl (fun _ => rfl) rfl
  | string s =>
    have hl : Lexes (Json.string s).render [.string (some s)] := by
      rw [render_string]
      exact lexes_string s
    exact reads_token hl (fun _ => rfl) rfl
  | array _ ih =>
    cases hi with
    | array hi => exact reads_array fun v hv => ih v hv (hi v hv)
  | object hn _ ih =>
    cases hi with
    | object hi => exact reads_object hn fun f hf => ih f hf (hi f hf)

lemma mem_setField {name : String} {v : Json} {fs : List (String × Json)} {f : String × Json}
    (h : f ∈ setField name v fs) : f = (name, v) ∨ f ∈ fs := by
  induction fs with
  | nil => exact .inl (List.mem_singleton.mp h)
  | cons g fs ih =>
    rw [setField] at h
    split at h
    · exact (List.mem_cons.mp h).imp_right (List.mem_cons_of_mem g)
    · rcases List.mem_cons.mp h with rfl | h
      · exact .inr List.mem_cons_self
      · exact (ih h).imp_right (List.mem_cons_of_mem g)

lemma nodup_setField (name : String) (v : Json) {fs : List (String × Json)}
    (h : (fs.map (·.1)).Nodup) : ((setField name v fs).map (·.1)).Nodup := by
  induction fs with
  | nil => exact List.nodup_singleton name
  | cons f fs ih =>
    obtain ⟨hf, hfs⟩ := List.nodup_cons.mp h
    rw [setField]
    split
    · next he =>
      rw [List.map_cons, ← he]
      exact h
    · next hne =>
      refine List.nodup_cons.mpr ⟨fun hm => ?_, ih hfs⟩
      obtain ⟨g, hg, hgf⟩ := List.mem_map.mp hm
      rcases mem_setField hg with rfl | hg
      · exact hne hgf.symm
      · exact hf (hgf ▸ List.mem_map_of_mem hg)

namespace Node

-- Whatever is read has the names of each object apart, since a name that comes again is set again.
mutual

lemma fits_of_value? : (n : Node) → {d : ℕ} → {v : Json} → value? d n = some v → Fits d v
  | .null, _, _, h => Option.some.inj h ▸ .null
  | .bool b, _, _, h => Option.some.inj h ▸ .bool b
  | .number n, _, _, h => by
    obtain ⟨x, -, rfl⟩ := Option.map_eq_some_iff.mp h
    exact .number x
  | .string s, _, _, h => by
    obtain ⟨s, -, rfl⟩ := Option.map_eq_some_iff.mp h
    exact .string s
  | .array ns, 0, _, h => nomatch h
  | .array ns, d + 1, _, h => by
    obtain ⟨vs, hvs, rfl⟩ := Option.map_eq_some_iff.mp h
    exact .array (fits_of_items? ns (by simp) hvs)
  | .object ms, 0, _, h => nomatch h
  | .object ms, d + 1, _, h => by
    obtain ⟨fs, hfs, rfl⟩ := Option.map_eq_some_iff.mp h
    have hnil : (([] : List (String × Json)).map (·.1)).Nodup := List.nodup_nil
    obtain ⟨hn, hf⟩ := fits_of_fields? ms hnil (by simp) hfs
    exact .object hn hf

lemma fits_of_items? : (ns : List Node) → {d : ℕ} → {done vs : List Json} →
    (∀ v ∈ done, Fits d v) → items? d done ns = some vs → ∀ v ∈ vs, Fits d v
  | [], _, _, _, hd, h => by
    simp only [items?] at h
    obtain rfl := Option.some.inj h
    exact fun v hv => hd v (List.mem_reverse.mp hv)
  | n :: ns, d, done, vs, hd, h => by
    simp only [items?] at h
    split at h
    · next v hv =>
      have hv := fits_of_value? n hv
      exact fits_of_items? ns (List.forall_mem_cons.mpr ⟨hv, hd⟩) h
    · cases h

lemma fits_of_fields? : (ms : List (Option String × Node)) → {d : ℕ} →
    {done fs : List (String × Json)} → (done.map (·.1)).Nodup → (∀ f ∈ done, Fits d f.2) →
    fields? d done ms = some fs → (fs.map (·.1)).Nodup ∧ ∀ f ∈ fs, Fits d f.2
  | [], _, _, _, hn, hd, h => by
    simp only [fields?] at h
    obtain rfl := Option.some.inj h
    exact ⟨hn, hd⟩
  | (name, n) :: ms, d, done, fs, hn, hd, h => by
    simp only [fields?] at h
    split at h
    · next name v hv =>
      have hv := fits_of_value? n hv
      refine fits_of_fields? ms (nodup_setField name v hn) (fun f hf => ?_) h
      rcases mem_setField hf with rfl | hf
      · exact hv
      · exact hd f hf
    · cases h

end

end Node

end RpcServer.Json
