import RpcServer.Payload
import RpcServer.Proofs.JsonOutline

/-! The two encodings of data. The wire form shows every entry of a table, and numbers of 32 bits in
digits of their own; the value keeps one entry for a name, and has numbers of 64 bits only. For data
in which nothing of this shows, and for no other, the value has the text of the wire form. -/

namespace RpcServer

namespace Json

lemma foldl_setField_of_nodup (gs fs : List (String × Json))
    (h : ((gs ++ fs).map (·.1)).Nodup) :
    fs.foldl (fun fs f => setField f.1 f.2 fs) gs = gs ++ fs := by
  induction fs generalizing gs with
  | nil => rw [List.foldl_nil, List.append_nil]
  | cons f fs ih =>
    have hf : f.1 ∉ gs.map (·.1) := by
      rw [List.map_append, List.map_cons, List.nodup_middle, List.nodup_cons] at h
      exact fun hm => h.1 (List.mem_append_left _ hm)
    rw [List.foldl_cons, setField_of_not_mem hf, ih _ (by simpa using h), List.append_assoc,
      List.singleton_append]

lemma nodup_foldl_setField (gs fs : List (String × Json)) (h : (gs.map (·.1)).Nodup) :
    ((fs.foldl (fun fs f => setField f.1 f.2 fs) gs).map (·.1)).Nodup := by
  induction fs generalizing gs with
  | nil => exact h
  | cons f fs ih => exact ih _ (nodup_setField f.1 f.2 h)

lemma table_eq_ofFields_iff {os : List (String × Outline)} {fs : List (String × Json)}
    (hos : os.map (·.1) = fs.map (·.1)) :
    Outline.table os = (ofFields fs).outline ↔ (fs.map (·.1)).Nodup ∧ os = fieldOutlines fs := by
  constructor
  · intro h
    have hkept : os = fieldOutlines (fs.foldl (fun fs f => setField f.1 f.2 fs) []) :=
      Outline.table.inj h
    have hn : (fs.map (·.1)).Nodup := by
      have hnames := congrArg (List.map (·.1)) hkept
      simp only [fieldOutlines_eq, List.map_map, Function.comp_def] at hnames
      rw [← hos, hnames]
      exact nodup_foldl_setField [] fs List.nodup_nil
    exact ⟨hn, hkept.trans (by rw [foldl_setField_of_nodup [] fs hn, List.nil_append])⟩
  · rintro ⟨hn, rfl⟩
    rw [ofFields, foldl_setField_of_nodup [] fs hn]
    rfl

end Json

namespace Data

open Json

/-- No name comes twice in a table, and no number of 32 bits has another text than as a value. -/
inductive Plain : Data → Prop where
  | null : Plain .null
  | bool (b : Bool) : Plain (.bool b)
  | integer (n : ℤ) : Plain (.integer n)
  | single {x : Binary32} (h : singleText x = (ofSingle x).render) : Plain (.single x)
  | binary (x : Binary64) : Plain (.binary x)
  | text (s : String) : Plain (.text s)
  | list {ds : List Data} (h : ∀ d ∈ ds, Plain d) : Plain (.list ds)
  | table {es : List (Key × Data)} (hn : (es.map (·.1.name)).Nodup)
      (h : ∀ e ∈ es, Plain e.2) : Plain (.table es)

lemma singleText_bare (x : Binary32) :
    singleText x ≠ [] ∧ ∀ c ∈ singleText x, isBareChar c = true := by
  simp only [singleText]
  split
  · exact bare_of_binary .single .single x.bits.toNat
  · exact ⟨List.cons_ne_nil _ _, List.all_eq_true.mp rfl⟩

def singleWord (x : Binary32) : Word := ⟨singleText x, (singleText_bare x).1, (singleText_bare x).2⟩

mutual

def outline : Data → Except Failure Outline
  | .null => .ok (.word .null)
  | .bool b => .ok (.word (.bool b))
  | .integer n => .ok (.word (.integer n))
  | .single x => .ok (.word (singleWord x))
  | .binary x => .ok (.word (.number (.binary x)))
  | .text s => .ok (.string s)
  | .list ds => (outlines ds).map .list
  | .table es => (entryOutlines es).map .table
  | .refused reason => .error (.refused reason)

def outlines : List Data → Except Failure (List Outline)
  | [] => .ok []
  | d :: ds =>
    match outline d with
    | .error e => .error e
    | .ok o => (outlines ds).map (o :: ·)

def entryOutlines : List (Key × Data) → Except Failure (List (String × Outline))
  | [] => .ok []
  | (k, d) :: es =>
    match k.name with
    | .error e => .error e
    | .ok name =>
      match outline d with
      | .error e => .error e
      | .ok o => (entryOutlines es).map ((name, o) :: ·)

end

mutual

lemma write_eq (done : List Char) : (d : Data) →
    write done d = d.outline.map fun o => o.text.reverse ++ done
  | .null | .bool _ | .integer _ | .single _ | .refused _ | .text _ | .list [] | .table [] => rfl
  | .binary x => by
    simp only [write, outline, Except.map, Outline.text, Word.number_chars]
  | .list (d :: ds) => by
    rw [write, write_eq _ d, outline, outlines]
    cases d.outline with
    | error e => rfl
    | ok o =>
      simp only [Except.map, writeItems_eq _ ds]
      cases outlines ds <;> simp [Outline.text]
  | .table ((k, d) :: es) => by
    rw [write, outline, entryOutlines]
    cases k.name with
    | error e => rfl
    | ok name =>
      simp only [write_eq _ d]
      cases d.outline with
      | error e => rfl
      | ok o =>
        simp only [Except.map, writeEntries_eq _ es]
        cases entryOutlines es <;> simp [Outline.text]

lemma writeItems_eq (done : List Char) : (ds : List Data) →
    writeItems done ds = (outlines ds).map fun os => (Outline.restOfList os).reverse ++ done
  | [] => rfl
  | d :: ds => by
    rw [writeItems, write_eq _ d, outlines]
    cases d.outline with
    | error e => rfl
    | ok o =>
      simp only [Except.map, writeItems_eq _ ds]
      cases outlines ds <;> simp [Outline.restOfList]

lemma writeEntries_eq (done : List Char) : (es : List (Key × Data)) →
    writeEntries done es = (entryOutlines es).map fun os =>
      (Outline.restOfTable os).reverse ++ done
  | [] => rfl
  | (k, d) :: es => by
    rw [writeEntries, entryOutlines]
    cases k.name with
    | error e => rfl
    | ok name =>
      simp only [write_eq _ d]
      cases d.outline with
      | error e => rfl
      | ok o =>
        simp only [Except.map, writeEntries_eq _ es]
        cases entryOutlines es <;> simp [Outline.restOfTable]

end

lemma wire_eq (d : Data) : d.wire = d.outline.map Outline.text := by
  rw [wire, write_eq]
  cases d.outline <;> simp [Except.map]

lemma ok_of_map {ε α β : Type} {f : α → β} {e : Except ε α} {b : β} (h : e.map f = .ok b) :
    ∃ a, e = .ok a ∧ f a = b := by
  cases e with
  | error e => cases h
  | ok a => exact ⟨a, rfl, Except.ok.inj h⟩

lemma singleWord_eq_iff (x : Binary32) :
    Outline.word (singleWord x) = (ofSingle x).outline ↔ singleText x = (ofSingle x).render := by
  rw [render_eq_text]
  refine ⟨congrArg Outline.text, fun h => Outline.text_injective h⟩

lemma plain_list {ds : List Data} : Plain (.list ds) ↔ ∀ d ∈ ds, Plain d :=
  ⟨fun | .list h => h, .list⟩

lemma plain_table {es : List (Key × Data)} :
    Plain (.table es) ↔ (es.map (·.1.name)).Nodup ∧ ∀ e ∈ es, Plain e.2 :=
  ⟨fun | .table hn h => ⟨hn, h⟩, fun h => .table h.1 h.2⟩

lemma plain_single {x : Binary32} : Plain (.single x) ↔ singleText x = (ofSingle x).render :=
  ⟨fun | .single h => h, .single⟩

-- Where there is a value there is an outline of the wire form, and it is that of the value if and only
-- if the data is plain. A table needs its names apart first: then the value has every entry of it.
mutual

lemma outline_of_value : (d : Data) → {v : Json} → d.value = .ok v →
    ∃ o, d.outline = .ok o ∧ (o = v.outline ↔ d.Plain)
  | .null, _, h => by
    obtain rfl := Except.ok.inj h
    exact ⟨_, rfl, iff_of_true rfl .null⟩
  | .bool b, _, h => by
    obtain rfl := Except.ok.inj h
    exact ⟨_, rfl, iff_of_true rfl (.bool b)⟩
  | .integer n, _, h => by
    rw [value] at h
    split at h
    · obtain rfl := Except.ok.inj h
      exact ⟨_, rfl, iff_of_true rfl (.integer n)⟩
    · cases h
  | .single x, _, h => by
    obtain rfl := Except.ok.inj h
    exact ⟨_, rfl, (singleWord_eq_iff x).trans plain_single.symm⟩
  | .binary x, _, h => by
    obtain rfl := Except.ok.inj h
    refine ⟨_, rfl, iff_of_true ?_ (.binary x)⟩
    simp only [Word.number, ofBinary]
    split <;> simp [Json.outline, Word.number, *]
  | .text s, _, h => by
    obtain rfl := Except.ok.inj h
    exact ⟨_, rfl, iff_of_true rfl (.text s)⟩
  | .list ds, _, h => by
    rw [value] at h
    obtain ⟨vs, hvs, rfl⟩ := ok_of_map h
    obtain ⟨os, hos, hiff⟩ := outlines_of_values ds hvs
    refine ⟨.list os, by rw [outline, hos]; rfl, ?_⟩
    rw [plain_list, ← hiff, Json.outline, Outline.list.injEq]
  | .table es, _, h => by
    rw [value] at h
    obtain ⟨fs, hfs, rfl⟩ := ok_of_map h
    obtain ⟨hnames, os, hos, hfst, hiff⟩ := entryOutlines_of_fields es hfs
    have hnodup : (es.map (·.1.name)).Nodup ↔ (fs.map (·.1)).Nodup := by
      have hok : Function.Injective (Except.ok : String → Except Failure String) :=
        fun _ _ => Except.ok.inj
      rw [hnames, ← List.nodup_map_iff hok, List.map_map]
      rfl
    refine ⟨.table os, by rw [outline, hos]; rfl, ?_⟩
    rw [table_eq_ofFields_iff hfst, plain_table, hnodup, hiff]

lemma outlines_of_values : (ds : List Data) → {vs : List Json} → values ds = .ok vs →
    ∃ os, outlines ds = .ok os ∧ (os = Json.outlines vs ↔ ∀ d ∈ ds, d.Plain)
  | [], _, h => by
    obtain rfl := Except.ok.inj h
    exact ⟨[], rfl, iff_of_true rfl (by simp)⟩
  | d :: ds, _, h => by
    rw [values] at h
    split at h
    · cases h
    · next v hv =>
      obtain ⟨vs, hvs, rfl⟩ := ok_of_map h
      obtain ⟨o, ho, hplain⟩ := outline_of_value d hv
      obtain ⟨os, hos, hall⟩ := outlines_of_values ds hvs
      refine ⟨o :: os, by simp only [outlines, ho, hos, Except.map], ?_⟩
      rw [Json.outlines, List.cons.injEq, List.forall_mem_cons, hplain, hall]

lemma entryOutlines_of_fields : (es : List (Key × Data)) → {fs : List (String × Json)} →
    fields es = .ok fs → es.map (·.1.name) = fs.map (.ok ·.1) ∧
      ∃ os, entryOutlines es = .ok os ∧ os.map (·.1) = fs.map (·.1) ∧
        (os = fieldOutlines fs ↔ ∀ e ∈ es, e.2.Plain)
  | [], _, h => by
    obtain rfl := Except.ok.inj h
    exact ⟨rfl, [], rfl, rfl, iff_of_true rfl (by simp)⟩
  | (k, d) :: es, _, h => by
    rw [fields] at h
    split at h
    · cases h
    · next name hk =>
      split at h
      · cases h
      · next v hv =>
        obtain ⟨fs, hfs, rfl⟩ := ok_of_map h
        obtain ⟨o, ho, hplain⟩ := outline_of_value d hv
        obtain ⟨hnames, os, hos, hfst, hall⟩ := entryOutlines_of_fields es hfs
        refine ⟨by rw [List.map_cons, List.map_cons, hnames, hk], (name, o) :: os,
          by simp only [entryOutlines, hk, ho, hos, Except.map],
          by rw [List.map_cons, List.map_cons, hfst], ?_⟩
        rw [fieldOutlines, List.cons.injEq, List.forall_mem_cons, Prod.mk.injEq, hplain, hall]
        simp

end

lemma wire_of_value {d : Data} {v : Json} (h : d.value = .ok v) :
    ∃ s, d.wire = .ok s ∧ (s = v.render ↔ d.Plain) := by
  obtain ⟨o, ho, hiff⟩ := outline_of_value d h
  refine ⟨o.text, by rw [wire_eq, ho]; rfl, ?_⟩
  rw [← hiff, render_eq_text]
  exact ⟨fun h => Outline.text_injective h, congrArg Outline.text⟩

example : singleText ⟨0x3dcccccd⟩ = "0.1".toList ∧
    (ofSingle ⟨0x3dcccccd⟩).render = "0.10000000149011612".toList := by
  decide +kernel

example : (table [(.text "a", .integer 1), (.text "a", .integer 2)]).wire =
    .ok "\x7b\"a\":1,\"a\":2\x7d".toList := by
  rfl

end Data

end RpcServer
