import RpcServer.Number.Shortest
import RpcServer.Proofs.JsonReading

/-! How a text is made of words, strings, lists and tables. A text has one outline only, so that two
writers that go about it differently have written the same exactly if their outlines are the same. -/

namespace RpcServer

lemma mem_of_mem_stripZeros {s : List Char} {c : Char} (h : c ∈ stripZeros s) : c ∈ s := by
  have hd := List.mem_reverse.mp h
  exact List.mem_reverse.mp ((List.dropWhile_suffix _).mem hd)

namespace Layout

variable {ds : List Char} {c : Char} {point exponent : ℤ}

lemma mem_positional (h : c ∈ positional ds point) : c ∈ ds ∨ c = '0' ∨ c = '.' := by
  simp only [positional] at h
  split at h
  · rcases List.mem_cons.mp h with rfl | h
    · exact .inr (.inl rfl)
    rcases List.mem_cons.mp h with rfl | h
    · exact .inr (.inr rfl)
    rcases List.mem_append.mp h with h | h
    · exact .inr (.inl (List.eq_of_mem_replicate h))
    · exact .inl h
  · split at h
    · rcases List.mem_append.mp h with h | h
      · exact (List.mem_append.mp h).imp id fun h => .inl (List.eq_of_mem_replicate h)
      · exact .inr (by simpa [or_comm] using h)
    · rcases List.mem_append.mp h with h | h
      · exact .inl (List.mem_of_mem_take h)
      rcases List.mem_cons.mp h with rfl | h
      · exact .inr (.inr rfl)
      · exact .inl (List.mem_of_mem_drop h)

lemma mem_exponential (h : c ∈ exponential ds exponent) :
    c ∈ ds ∨ c ∈ ['.', 'e', '+'] ∨ c ∈ (toString exponent).toList := by
  have hmark : ∀ c ∈ (if 0 ≤ exponent then 'e' :: '+' :: (toString exponent).toList
      else 'e' :: (toString exponent).toList),
      c ∈ ['.', 'e', '+'] ∨ c ∈ (toString exponent).toList := by
    intro c hc
    split at hc <;> simp only [List.mem_cons] at hc ⊢ <;> tauto
  simp only [exponential] at h
  split at h
  · exact .inr (hmark c h)
  · rcases List.mem_cons.mp h with rfl | h
    · exact .inl List.mem_cons_self
    · exact .inr (hmark c h)
  · rcases List.mem_cons.mp h with rfl | h
    · exact .inl List.mem_cons_self
    rcases List.mem_cons.mp h with rfl | h
    · exact .inr (.inl List.mem_cons_self)
    rcases List.mem_append.mp h with h | h
    · exact .inl (List.mem_cons_of_mem _ h)
    · exact .inr (hmark c h)

lemma positional_ne_nil : positional ds point ≠ [] := by
  simp only [positional]
  split
  · exact List.cons_ne_nil _ _
  · split
    · exact List.append_ne_nil_of_right_ne_nil _ (List.cons_ne_nil _ _)
    · exact List.append_ne_nil_of_right_ne_nil _ (List.cons_ne_nil _ _)

lemma exponential_ne_nil : exponential ds exponent ≠ [] := by
  simp only [exponential]
  split
  · split <;> exact List.cons_ne_nil _ _
  · exact List.cons_ne_nil _ _
  · exact List.cons_ne_nil _ _

end Layout

namespace Json

@[ext]
structure Word where
  chars : List Char
  nonempty : chars ≠ []
  bare : ∀ c ∈ chars, isBareChar c = true

lemma bare_of_digits {n : ℕ} {c : Char} (h : c ∈ (toString n).toList) : isBareChar c = true :=
  isBareChar_of_isIntegerChar (@isIntegerChar_of_mem n c h)

lemma toString_ne_nil (n : ℤ) : (toString n).toList ≠ [] := by
  cases n with
  | ofNat m => exact toList_ofNat m ▸ Nat.toDigits_ne_nil
  | negSucc m => exact toList_negSucc m ▸ List.cons_ne_nil _ _

def Word.integer (n : ℤ) : Word :=
  ⟨(toString n).toList, toString_ne_nil n,
    fun _ hc => isBareChar_of_isIntegerChar (isIntegerChar_of_mem hc)⟩

lemma bare_of_layout {l : Layout} {d : BinaryFormat.Decimal} {c : Char} (h : c ∈ l.render d) :
    isBareChar c = true := by
  have hd : ∀ c ∈ stripZeros (toString d.digits).toList, isBareChar c = true :=
    fun c hc => bare_of_digits (mem_of_mem_stripZeros hc)
  simp only [Layout.render] at h
  split at h
  · rcases Layout.mem_positional h with h | rfl | rfl
    · exact hd c h
    · rfl
    · rfl
  · rcases Layout.mem_exponential h with h | h | h
    · exact hd c h
    · simp only [List.mem_cons, List.not_mem_nil, or_false] at h
      rcases h with rfl | rfl | rfl <;> rfl
    · exact isBareChar_of_isIntegerChar (isIntegerChar_of_mem h)

lemma layout_ne_nil (l : Layout) (d : BinaryFormat.Decimal) : l.render d ≠ [] := by
  simp only [Layout.render]
  split
  · exact Layout.positional_ne_nil
  · exact Layout.exponential_ne_nil

lemma bare_of_binary (f : BinaryFormat) (l : Layout) (bits : ℕ) :
    f.render l bits ≠ [] ∧ ∀ c ∈ f.render l bits, isBareChar c = true := by
  simp only [BinaryFormat.render]
  generalize hs : (if f.size bits = 0 then ['0', '.', '0'] else l.render (f.shortest bits)) = s
  have hbare : s ≠ [] ∧ ∀ c ∈ s, isBareChar c = true := by
    rw [← hs]
    split
    · exact ⟨List.cons_ne_nil _ _, List.all_eq_true.mp rfl⟩
    · exact ⟨layout_ne_nil l _, fun _ => bare_of_layout⟩
  split
  · exact ⟨List.cons_ne_nil _ _, List.forall_mem_cons.mpr ⟨rfl, hbare.2⟩⟩
  · exact hbare

namespace Word

def null : Word := ⟨['n', 'u', 'l', 'l'], List.cons_ne_nil _ _, List.all_eq_true.mp rfl⟩

def bool (b : Bool) : Word :=
  ⟨renderBool b, by cases b <;> exact List.cons_ne_nil _ _,
    by cases b <;> exact List.all_eq_true.mp rfl⟩

def binary (f : BinaryFormat) (l : Layout) (bits : ℕ) : Word :=
  ⟨f.render l bits, (bare_of_binary f l bits).1, (bare_of_binary f l bits).2⟩

def number : Number → Word
  | .integer n => integer n
  | .binary x => if x.isFinite then binary .double .double x.bits.toNat else null

lemma number_chars (n : Number) : (number n).chars = n.render := by
  cases n with
  | integer n => rfl
  | binary x =>
    simp only [number, Number.render]
    split <;> rfl

end Word

inductive Outline where
  | word (w : Word)
  | string (s : String)
  | list (items : List Outline)
  | table (entries : List (String × Outline))

namespace Outline

mutual

def text : Outline → List Char
  | .word w => w.chars
  | .string s => renderString s
  | .list [] => ['[', ']']
  | .list (o :: os) => '[' :: (o.text ++ restOfList os)
  | .table [] => ['\x7b', '\x7d']
  | .table ((k, o) :: es) => '\x7b' :: (renderString k ++ ':' :: (o.text ++ restOfTable es))

def restOfList : List Outline → List Char
  | [] => [']']
  | o :: os => ',' :: (o.text ++ restOfList os)

def restOfTable : List (String × Outline) → List Char
  | [] => ['\x7d']
  | (k, o) :: es => ',' :: (renderString k ++ ':' :: (o.text ++ restOfTable es))

end

def Closes (s : List Char) : Prop := ∀ c ∈ s.head?, isBareChar c = false

lemma restOfList_closes (os : List Outline) (s : List Char) : Closes (restOfList os ++ s) := by
  cases os <;> (rintro c hc; obtain rfl := Option.some.inj hc; rfl)

lemma restOfTable_closes (es : List (String × Outline)) (s : List Char) :
    Closes (restOfTable es ++ s) := by
  rcases es with _ | ⟨⟨k, o⟩, es⟩ <;> (rintro c hc; obtain rfl := Option.some.inj hc; rfl)

lemma word_append_inj {v w : Word} {s t : List Char} (hs : Closes s) (ht : Closes t)
    (h : v.chars ++ s = w.chars ++ t) : v = w ∧ s = t := by
  have hspan : ∀ (w : Word) (s : List Char), Closes s →
      (w.chars ++ s).takeWhile isBareChar = w.chars := by
    intro w s hs
    rw [List.takeWhile_append_of_pos w.bare]
    cases s with
    | nil => simp
    | cons c s => rw [List.takeWhile_cons_of_neg (by simp [hs c rfl]), List.append_nil]
  have hw : v.chars = w.chars := by rw [← hspan v s hs, h, hspan w t ht]
  exact ⟨Word.ext hw, List.append_cancel_left (hw ▸ h)⟩

end Outline

def unescape? : List Char → Option (Char × List Char)
  | '\\' :: 'u' :: '0' :: '0' :: a :: b :: s =>
    (Text.Hex.number? [a, b]).map fun n => (Char.ofNat n, s)
  | '\\' :: 'b' :: s => some ('\x08', s)
  | '\\' :: 't' :: s => some ('\t', s)
  | '\\' :: 'n' :: s => some ('\n', s)
  | '\\' :: 'f' :: s => some ('\x0c', s)
  | '\\' :: 'r' :: s => some ('\r', s)
  | '\\' :: c :: s => some (c, s)
  | c :: s => some (c, s)
  | [] => none

lemma unescape?_escape (c : Char) (s : List Char) : unescape? (escape c ++ s) = some (c, s) := by
  unfold escape
  split_ifs with h₁ h₂ h₃ h₄ h₅ h₆ h₇ h₈
  · subst h₁
    rfl
  · subst h₂
    rfl
  · subst h₃
    rfl
  · subst h₄
    rfl
  · subst h₅
    rfl
  · subst h₆
    rfl
  · subst h₇
    rfl
  · obtain ⟨a, b, hab, hb⟩ := number?_control h₈
    rw [hab]
    simp only [List.cons_append, List.nil_append, unescape?, hb, Option.map_some, Char.ofNat_toNat]
  · simp [unescape?, h₂]

lemma escape_append_inj {c d : Char} {s t : List Char} (h : escape c ++ s = escape d ++ t) :
    c = d ∧ s = t := by
  have hu := unescape?_escape c s
  rw [h, unescape?_escape] at hu
  obtain ⟨rfl, rfl⟩ := Prod.mk.inj (Option.some.inj hu)
  exact ⟨rfl, rfl⟩

lemma escape_ne_quote (c : Char) (s t : List Char) : escape c ++ s ≠ '"' :: t := by
  intro h
  rcases escape_cases c with ⟨he, hq, -⟩ | ⟨d, r, he, -⟩
  · rw [he] at h
    exact hq (List.cons.inj h).1
  · rw [he] at h
    exact absurd (List.cons.inj h).1 (by decide)

lemma body_append_inj {l m s t : List Char}
    (h : l.flatMap escape ++ '"' :: s = m.flatMap escape ++ '"' :: t) : l = m ∧ s = t := by
  induction l generalizing m with
  | nil =>
    cases m with
    | nil => exact ⟨rfl, (List.cons.inj h).2⟩
    | cons d m =>
      rw [List.flatMap_cons, List.append_assoc] at h
      exact absurd h.symm (escape_ne_quote d _ _)
  | cons c l ih =>
    cases m with
    | nil =>
      rw [List.flatMap_cons, List.append_assoc] at h
      exact absurd h (escape_ne_quote c _ _)
    | cons d m =>
      rw [List.flatMap_cons, List.flatMap_cons, List.append_assoc, List.append_assoc] at h
      obtain ⟨rfl, hs⟩ := escape_append_inj h
      obtain ⟨rfl, rfl⟩ := ih hs
      exact ⟨rfl, rfl⟩

lemma renderString_append_inj {a b : String} {s t : List Char}
    (h : renderString a ++ s = renderString b ++ t) : a = b ∧ s = t := by
  simp only [renderString, List.cons_append, List.append_assoc, List.nil_append] at h
  obtain ⟨hl, rfl⟩ := body_append_inj (List.cons.inj h).2
  exact ⟨String.toList_inj.mp hl, rfl⟩

namespace Outline

def kindOf (c : Char) : ℕ :=
  if isBareChar c then 0 else if c = '"' then 1 else if c = '[' then 2 else if c = '\x7b' then 3
  else 4

def kind : Outline → ℕ
  | .word _ => 0
  | .string _ => 1
  | .list _ => 2
  | .table _ => 3

lemma text_head (o : Outline) : ∃ c s, o.text = c :: s ∧ kindOf c = o.kind := by
  match o with
  | .word ⟨c :: s, _, hb⟩ => exact ⟨c, s, rfl, if_pos (hb c List.mem_cons_self)⟩
  | .string s => exact ⟨'"', _, rfl, rfl⟩
  | .list [] | .list (_ :: _) => exact ⟨'[', _, rfl, rfl⟩
  | .table [] | .table (_ :: _) => exact ⟨'\x7b', _, rfl, rfl⟩

lemma kind_eq {o p : Outline} {s t : List Char} (h : o.text ++ s = p.text ++ t) :
    o.kind = p.kind := by
  obtain ⟨c, u, ho, hc⟩ := o.text_head
  obtain ⟨d, v, hp, hd⟩ := p.text_head
  rw [ho, hp] at h
  rw [← hc, ← hd, (List.cons.inj h).1]

lemma text_append_ne {o : Outline} {c : Char} {s t : List Char} (hc : kindOf c = 4) :
    o.text ++ s ≠ c :: t := by
  obtain ⟨d, u, ho, hd⟩ := o.text_head
  rw [ho]
  intro h
  rw [(List.cons.inj h).1, hc] at hd
  cases o <;> cases hd

variable {s t : List Char}

lemma list_append_inj {os ps : List Outline}
    (hr : restOfList os ++ s = restOfList ps ++ t → os = ps ∧ s = t)
    (h : (list os).text ++ s = (list ps).text ++ t) : list os = list ps ∧ s = t := by
  have hl : os = ps ∧ s = t := by
    cases os with
    | nil =>
      cases ps with
      | nil => exact hr (List.cons.inj h).2
      | cons p ps =>
        have h := (List.cons.inj h).2.symm
        exact absurd ((List.append_assoc ..).symm.trans h) (text_append_ne rfl)
    | cons o os =>
      cases ps with
      | nil =>
        have h := (List.cons.inj h).2
        exact absurd ((List.append_assoc ..).symm.trans h) (text_append_ne rfl)
      | cons p ps => exact hr (congrArg (',' :: ·) (List.cons.inj h).2)
  exact ⟨congrArg list hl.1, hl.2⟩

lemma table_append_inj {es fs : List (String × Outline)}
    (hr : restOfTable es ++ s = restOfTable fs ++ t → es = fs ∧ s = t)
    (h : (table es).text ++ s = (table fs).text ++ t) : table es = table fs ∧ s = t := by
  have hl : es = fs ∧ s = t := by
    cases es with
    | nil =>
      cases fs with
      | nil => exact hr (List.cons.inj h).2
      | cons f fs => exact absurd (List.cons.inj (List.cons.inj h).2).1 (by decide)
    | cons e es =>
      cases fs with
      | nil => exact absurd (List.cons.inj (List.cons.inj h).2).1 (by decide)
      | cons f fs => exact hr (congrArg (',' :: ·) (List.cons.inj h).2)
  exact ⟨congrArg table hl.1, hl.2⟩

-- Along the first outline; the rest of a list or a table closes the word in front of it.
mutual

lemma text_append_inj : (o p : Outline) → {s t : List Char} → Closes s → Closes t →
    o.text ++ s = p.text ++ t → o = p ∧ s = t
  | .word v, .word w, s, t, hs, ht, h => by
    obtain ⟨rfl, rfl⟩ := word_append_inj hs ht h
    exact ⟨rfl, rfl⟩
  | .string a, .string b, s, t, _, _, h => by
    obtain ⟨rfl, rfl⟩ := renderString_append_inj h
    exact ⟨rfl, rfl⟩
  | .list os, .list ps, s, t, _, _, h => list_append_inj (restOfList_append_inj os ps) h
  | .table es, .table fs, s, t, _, _, h => table_append_inj (restOfTable_append_inj es fs) h
  | .word _, .string _, _, _, _, _, h | .word _, .list _, _, _, _, _, h
  | .word _, .table _, _, _, _, _, h | .string _, .word _, _, _, _, _, h
  | .string _, .list _, _, _, _, _, h | .string _, .table _, _, _, _, _, h
  | .list _, .word _, _, _, _, _, h | .list _, .string _, _, _, _, _, h
  | .list _, .table _, _, _, _, _, h | .table _, .word _, _, _, _, _, h
  | .table _, .string _, _, _, _, _, h | .table _, .list _, _, _, _, _, h => nomatch kind_eq h

lemma restOfList_append_inj : (os ps : List Outline) → {s t : List Char} →
    restOfList os ++ s = restOfList ps ++ t → os = ps ∧ s = t
  | [], [], s, t, h => ⟨rfl, (List.cons.inj h).2⟩
  | [], p :: ps, s, t, h => absurd (List.cons.inj h).1 (by decide)
  | o :: os, [], s, t, h => absurd (List.cons.inj h).1 (by decide)
  | o :: os, p :: ps, s, t, h => by
    have h : o.text ++ restOfList os ++ s = p.text ++ restOfList ps ++ t := (List.cons.inj h).2
    rw [List.append_assoc, List.append_assoc] at h
    obtain ⟨rfl, hr⟩ := text_append_inj o p (restOfList_closes os s) (restOfList_closes ps t) h
    obtain ⟨rfl, rfl⟩ := restOfList_append_inj os ps hr
    exact ⟨rfl, rfl⟩

lemma restOfTable_append_inj : (es fs : List (String × Outline)) → {s t : List Char} →
    restOfTable es ++ s = restOfTable fs ++ t → es = fs ∧ s = t
  | [], [], s, t, h => ⟨rfl, (List.cons.inj h).2⟩
  | [], (k, p) :: fs, s, t, h => absurd (List.cons.inj h).1 (by decide)
  | (k, o) :: es, [], s, t, h => absurd (List.cons.inj h).1 (by decide)
  | (k, o) :: es, (l, p) :: fs, s, t, h => by
    have h : renderString k ++ ':' :: (o.text ++ restOfTable es) ++ s =
        renderString l ++ ':' :: (p.text ++ restOfTable fs) ++ t := (List.cons.inj h).2
    rw [List.append_assoc, List.append_assoc] at h
    obtain ⟨rfl, ho⟩ := renderString_append_inj h
    have ho : o.text ++ restOfTable es ++ s = p.text ++ restOfTable fs ++ t := (List.cons.inj ho).2
    rw [List.append_assoc, List.append_assoc] at ho
    obtain ⟨rfl, hr⟩ := text_append_inj o p (restOfTable_closes es s) (restOfTable_closes fs t) ho
    obtain ⟨rfl, rfl⟩ := restOfTable_append_inj es fs hr
    exact ⟨rfl, rfl⟩

end

lemma text_injective {o p : Outline} (h : o.text = p.text) : o = p := by
  have hn : Closes [] := fun c hc => nomatch hc
  have ha : o.text ++ [] = p.text ++ [] := by rw [h]
  exact (text_append_inj o p hn hn ha).1

end Outline

mutual

def outline : Json → Outline
  | .null => .word .null
  | .bool b => .word (.bool b)
  | .number n => .word (.number n)
  | .string s => .string s
  | .array vs => .list (outlines vs)
  | .object fs => .table (fieldOutlines fs)

def outlines : List Json → List Outline
  | [] => []
  | v :: vs => v.outline :: outlines vs

def fieldOutlines : List (String × Json) → List (String × Outline)
  | [] => []
  | (k, v) :: fs => (k, v.outline) :: fieldOutlines fs

end

lemma fieldOutlines_eq (fs : List (String × Json)) :
    fieldOutlines fs = fs.map fun f => (f.1, f.2.outline) := by
  induction fs with
  | nil => rfl
  | cons f fs ih => rw [fieldOutlines, ih, List.map_cons]

mutual

lemma render_eq_text : (v : Json) → v.render = v.outline.text
  | .null => rfl
  | .bool b => by simp [render, emit, outline, Outline.text, Word.bool]
  | .number n => by
    rw [outline, Outline.text, Word.number_chars]
    simp [render, emit]
  | .string s => render_string s
  | .array [] => rfl
  | .array (v :: vs) => by
    rw [render_array_cons, render_eq_text v, List.append_assoc, itemsText_eq vs]
    rfl
  | .object [] => rfl
  | .object ((k, v) :: fs) => by
    rw [render_object_cons, render_eq_text v, List.append_assoc, fieldsText_eq fs]
    simp [outline, fieldOutlines, Outline.text]

lemma itemsText_eq : (vs : List Json) → itemsText vs ++ [']'] = Outline.restOfList (outlines vs)
  | [] => rfl
  | v :: vs => by
    rw [outlines, Outline.restOfList, ← itemsText_eq vs, ← render_eq_text v]
    simp [itemsText]

lemma fieldsText_eq : (fs : List (String × Json)) →
    fieldsText fs ++ ['\x7d'] = Outline.restOfTable (fieldOutlines fs)
  | [] => rfl
  | (k, v) :: fs => by
    rw [fieldOutlines, Outline.restOfTable, ← fieldsText_eq fs, ← render_eq_text v]
    simp [fieldsText]

end

end Json

end RpcServer
