import RpcServer.Proofs.HeaderTable
import RpcServer.Proofs.HeaderText
import RpcServer.Proofs.JsonText

/-! Headers as logs show them, said without the loop over the fields: one row for each name, in the order
of names, with all its values as they are shown. -/

namespace RpcServer

open Text

namespace Header.Value

variable {v : Value} {s : List Char}

lemma text?_eq_none_iff : v.text? = none ↔ ∃ b ∈ v.bytes, isTextByte b = false := by
  simp [text?, isText]

lemma encode_of_text? (h : v.text? = some s) : Utf8.encode s = v.bytes := by
  rw [encode_visible (visible_of_text? h)]
  simp only [text?] at h
  split at h
  · obtain rfl := Option.some.inj h
    have hb : ∀ b ∈ v.bytes, UInt8.ofNat (Char.ofNat b.toNat).toNat = b := by
      intro b _
      have hvalid : b.toNat.isValidChar := .inl (lt_trans (UInt8.toNat_lt b) (by decide))
      have hc : (Char.ofNat b.toNat).toNat = b.toNat := by
        rw [Char.ofNat, dif_pos hvalid]
        rfl
      rw [hc, UInt8.ofNat_toNat]
    rw [List.map_map]
    exact (List.map_congr_left hb).trans (List.map_id v.bytes)
  · contradiction

lemma text?_eq_some_iff :
    v.text? = some s ↔ (∀ b ∈ v.bytes, isTextByte b = true) ∧ Utf8.encode s = v.bytes := by
  constructor
  · intro h
    refine ⟨fun b hb => ?_, encode_of_text? h⟩
    by_contra hn
    have := text?_eq_none_iff.mpr ⟨b, hb, Bool.eq_false_iff.mpr hn⟩
    rw [h] at this
    contradiction
  · rintro ⟨ht, he⟩
    obtain ⟨t, hs⟩ : ∃ t, v.text? = some t := ⟨_, if_pos (List.all_eq_true.mpr ht)⟩
    rw [hs, Utf8.encode_injective ((encode_of_text? hs).trans he.symm)]

end Header.Value

namespace Log

inductive Shown (list : List String) (n : Header.Name) (v : Header.Value) : List Char → Prop
  | redacted {r : String} (hr : r ∈ list) (hs : sameIgnoringCase r n.text = true) :
    Shown list n v "[REDACTED]".toList
  | binary {b : UInt8} (hr : ∀ r ∈ list, sameIgnoringCase r n.text = false) (hb : b ∈ v.bytes)
    (ht : Header.Value.isTextByte b = false) : Shown list n v "<binary>".toList
  | verbatim {s : List Char} (hr : ∀ r ∈ list, sameIgnoringCase r n.text = false)
    (ht : ∀ b ∈ v.bytes, Header.Value.isTextByte b = true) (hs : Utf8.encode s = v.bytes) :
    Shown list n v s

structure Tabulated (list : List String) (h : Headers) (rows : List (String × List Char)) :
    Prop where
  ascending : (rows.map Prod.fst).Pairwise (· < ·)
  named : ∀ s, s ∈ rows.map Prod.fst ↔ ∃ v, (⟨s⟩, v) ∈ h.entries
  values : ∀ row ∈ rows, ∃ parts, row.2 = joined [',', ' '] parts ∧
    List.Forall₂ (Shown list ⟨row.1⟩) (h.getAll ⟨row.1⟩) parts

def rowText (row : String × List Char) : List Char :=
  quoted row.1.toList ++ [':', ' '] ++ quoted row.2

def Rendered (list : List String) (h : Headers) (s : List Char) : Prop :=
  ∃ rows, Tabulated list h rows ∧
    s = '\x7b' :: joined [',', ' '] (rows.map rowText) ++ ['\x7d']

variable {list : List String} {g h : Headers} {n : Header.Name} {v : Header.Value} {s : List Char}
  {rows rows' : List (String × List Char)}

lemma isRedacted_eq_true :
    isRedacted list n = true ↔ ∃ r ∈ list, sameIgnoringCase r n.text = true := List.any_eq_true

lemma isRedacted_eq_false :
    isRedacted list n = false ↔ ∀ r ∈ list, sameIgnoringCase r n.text = false := by
  simp [isRedacted]

lemma shown_iff : Shown list n v s ↔ s = headerValue list n v := by
  constructor
  · intro hs
    cases hs with
    | redacted hr hs =>
      rw [headerValue, if_pos (isRedacted_eq_true.mpr ⟨_, hr, hs⟩)]
      rfl
    | binary hr hb ht =>
      rw [headerValue, isRedacted_eq_false.mpr hr, Header.Value.text?_eq_none_iff.mpr ⟨_, hb, ht⟩]
      rfl
    | verbatim hr ht hs =>
      rw [headerValue, isRedacted_eq_false.mpr hr, Header.Value.text?_eq_some_iff.mpr ⟨ht, hs⟩]
      rfl
  · rintro rfl
    cases hr : isRedacted list n with
    | true =>
      obtain ⟨r, hr', hs⟩ := isRedacted_eq_true.mp hr
      rw [headerValue, if_pos hr]
      exact .redacted hr' hs
    | false =>
      have hn := isRedacted_eq_false.mp hr
      rw [headerValue, hr]
      cases ht : v.text? with
      | none =>
        obtain ⟨b, hb, hf⟩ := Header.Value.text?_eq_none_iff.mp ht
        exact .binary hn hb hf
      | some s =>
        obtain ⟨hb, he⟩ := Header.Value.text?_eq_some_iff.mp ht
        exact .verbatim hn hb he

lemma forall₂_shown_iff {vs : List Header.Value} {parts : List (List Char)} :
    List.Forall₂ (Shown list n) vs parts ↔ parts = vs.map (headerValue list n) := by
  induction vs generalizing parts with
  | nil => exact List.forall₂_nil_left_iff
  | cons v vs ih =>
    rw [List.forall₂_cons_left_iff]
    simp [shown_iff, ih]

lemma foldl_behind (s : List Char) (parts : List (List Char)) :
    parts.foldl behind (some s) = some (joined [',', ' '] (s :: parts)) := by
  induction parts generalizing s with
  | nil => rfl
  | cons p ps ih =>
    rw [List.foldl_cons, behind, ih]
    cases ps <;> simp [joined]

def cell (list : List String) (h : Headers) (s : String) : List Char :=
  joined [',', ' '] ((h.getAll ⟨s⟩).map (headerValue list ⟨s⟩))

lemma get?_headerTable_eq (list : List String) (h : Headers) (s : String) :
    (headerTable list h).get? s = if h.getAll ⟨s⟩ = [] then none else some (cell list h s) := by
  rw [get?_headerTable list h ⟨s⟩, cell]
  cases h.getAll ⟨s⟩ with
  | nil => rfl
  | cons v vs => exact foldl_behind _ _

lemma getAll_ne_nil_iff : h.getAll n ≠ [] ↔ ∃ v, (n, v) ∈ h.entries := by
  rw [Headers.getAll, ne_eq, List.map_eq_nil_iff, List.filter_eq_nil_iff]
  simp

lemma headerTable_tabulated (list : List String) (h : Headers) :
    Tabulated list h (headerTable list h).entries where
  ascending := (headerTable list h).ascending.map Prod.fst fun _ _ => compareOfLessAndEq_eq_lt.mp
  named s := by
    rw [Dict.mem_keys_iff, get?_headerTable_eq, ← getAll_ne_nil_iff]
    split <;> simp [*]
  values row hr := by
    have hg := (Dict.mem_entries_iff _ row.1 row.2).mp hr
    rw [get?_headerTable_eq] at hg
    split at hg
    · contradiction
    · exact ⟨_, (Option.some.inj hg).symm, forall₂_shown_iff.mpr rfl⟩

lemma Tabulated.rows_eq (hr : Tabulated list h rows) :
    rows = (rows.map Prod.fst).map fun s => (s, cell list h s) := by
  rw [List.map_map]
  refine (List.map_id rows).symm.trans (List.map_congr_left fun row hm => ?_)
  obtain ⟨parts, hp, hs⟩ := hr.values row hm
  rw [forall₂_shown_iff.mp hs] at hp
  exact Prod.ext rfl hp

lemma Tabulated.names_eq (hr : Tabulated list h rows) (hr' : Tabulated list h rows') :
    rows.map Prod.fst = rows'.map Prod.fst := by
  have nodup : ∀ {names : List String}, names.Pairwise (· < ·) → names.Nodup := fun hn =>
    hn.imp fun {a b} (hlt : a < b) (he : a = b) => String.lt_irrefl b (he ▸ hlt)
  have hp : (rows.map Prod.fst).Perm (rows'.map Prod.fst) := by
    rw [List.perm_ext_iff_of_nodup (nodup hr.ascending) (nodup hr'.ascending)]
    exact fun s => (hr.named s).trans (hr'.named s).symm
  exact hp.eq_of_pairwise (fun a b _ _ hab hba => absurd hba (String.lt_asymm hab)) hr.ascending
    hr'.ascending

lemma Tabulated.unique (hr : Tabulated list h rows) (hr' : Tabulated list h rows') :
    rows = rows' := by
  rw [hr.rows_eq, hr'.rows_eq, hr.names_eq hr']

lemma headers_eq (list : List String) (h : Headers) :
    headers list h = '\x7b' :: joined [',', ' '] ((headerTable list h).entries.map rowText) ++
      ['\x7d'] := by
  have he : ∀ rows : List (String × List Char), Inspection.renderEntries (rows.map fun row =>
      (row.1, .text (String.ofList row.2))) = rows.map rowText := by
    intro rows
    induction rows with
    | nil => rfl
    | cons row rows ih =>
      simp only [List.map_cons, Inspection.renderEntries, ih, Inspection.render_text,
        String.toList_ofList, rowText]
  rw [headers, Inspection.render, he]
  rfl

/-- What is shown of headers is the text of their table, whatever stands between the fields of a name,
and it does not depend on the values of redacted names. -/
theorem headers_rendered (list : List String) (h : Headers) :
    (∀ s, Rendered list h s ↔ s = headers list h) ∧
      (∀ g, (∀ n, g.getAll n = h.getAll n) → headers list g = headers list h) ∧
      ∀ g, g.SameBut list h → headers list g = headers list h := by
  refine ⟨fun s => ?_, fun g hg => headers_sameBut fun n => ?_, fun g hg => headers_sameBut hg⟩
  · constructor
    · rintro ⟨rows, hr, rfl⟩
      rw [headers_eq, hr.unique (headerTable_tabulated list h)]
    · rintro rfl
      exact ⟨_, headerTable_tabulated list h, headers_eq list h⟩
  · rw [hg n]
    exact ⟨rfl, fun _ => rfl⟩

end Log

end RpcServer
