import Mathlib.Data.List.Nodup
import Mathlib.Tactic.Common
import RpcServer.Dict

/-! Finite maps through what is found under their keys. -/

namespace RpcServer.Dict

variable {κ ν : Type} [Ord κ]

lemma place_of_forall_lt [Std.OrientedOrd κ] {k : κ} {es : List (κ × ν)}
    (h : ∀ e ∈ es, compare e.1 k = .lt) (v : ν) : place k v es = es ++ [(k, v)] := by
  induction es with
  | nil => rfl
  | cons e es ih =>
    have hk : compare k e.1 = .gt := Std.OrientedCmp.gt_of_lt (h e List.mem_cons_self)
    simp only [place, hk, List.cons_append]
    rw [ih fun d hd => h d (List.mem_cons_of_mem e hd)]

lemma place_eq (k : κ) (v : ν) (es : List (κ × ν)) : ∃ front old back,
    es = front ++ old ++ back ∧ place k v es = front ++ (k, v) :: back := by
  induction es with
  | nil => exact ⟨[], [], [], rfl, rfl⟩
  | cons e es ih =>
    simp only [place]
    split
    · exact ⟨[], [], e :: es, rfl, rfl⟩
    · exact ⟨[], [e], es, rfl, rfl⟩
    · obtain ⟨front, old, back, he, hp⟩ := ih
      exact ⟨e :: front, old, back, by rw [he]; rfl, by rw [hp]; rfl⟩

lemma length_place_le (k : κ) (v : ν) (es : List (κ × ν)) :
    (place k v es).length ≤ es.length + 1 := by
  obtain ⟨front, old, back, he, hp⟩ := place_eq k v es
  rw [hp, he]
  simp only [List.length_append, List.length_cons]
  omega

variable [Std.LawfulEqOrd κ]

lemma find?_place_self (k : κ) (v : ν) (es : List (κ × ν)) :
    (place k v es).find? (fun e => compare k e.1 = .eq) = some (k, v) := by
  induction es with
  | nil => simp [place]
  | cons e es ih =>
    simp only [place]
    split
    · simp
    · simp
    · rename_i hgt
      rw [List.find?_cons_of_neg (by simp [hgt]), ih]

lemma find?_place_ne {k l : κ} (h : l ≠ k) (v : ν) (es : List (κ × ν)) :
    (place k v es).find? (fun e => compare l e.1 = .eq) =
      es.find? (fun e => compare l e.1 = .eq) := by
  have hk : compare l k ≠ .eq := fun he => h (Std.LawfulEqCmp.eq_of_compare he)
  induction es with
  | nil => simp [place, hk]
  | cons e es ih =>
    simp only [place]
    split
    · rw [List.find?_cons_of_neg (by simpa using hk)]
    · rename_i heq
      have he : k = e.1 := Std.LawfulEqCmp.eq_of_compare heq
      rw [List.find?_cons_of_neg (by simpa using hk),
        List.find?_cons_of_neg (by simpa [← he] using hk)]
    · simp only [List.find?_cons]
      rw [ih]

lemma mem_entries_iff (d : Dict κ ν) (k : κ) (v : ν) : (k, v) ∈ d.entries ↔ d.get? k = some v := by
  obtain ⟨es, hes⟩ := d
  simp only [get?]
  induction es with
  | nil => simp
  | cons e es ih =>
    have hlt : ∀ p ∈ es, compare e.1 p.1 = .lt := fun p hp => List.rel_of_pairwise_cons hes hp
    by_cases hk : compare k e.1 = .eq
    · have he : k = e.1 := Std.LawfulEqCmp.eq_of_compare hk
      subst he
      have hnot : (e.1, v) ∉ es := by
        intro hm
        have := hlt _ hm
        rw [hk] at this
        exact absurd this (by decide)
      rw [List.find?_cons_of_pos (by simp)]
      simp only [List.mem_cons, hnot, or_false, Option.map_some, Option.some.injEq]
      exact ⟨fun h => (congrArg Prod.snd h).symm, fun h => by rw [← h]⟩
    · have hne : (k, v) ≠ e := by
        rintro rfl
        exact hk Std.ReflCmp.compare_self
      rw [List.find?_cons_of_neg (by simpa using hk), List.mem_cons, ih hes.of_cons]
      simp [hne]

lemma keys_nodup (d : Dict κ ν) : (d.entries.map Prod.fst).Nodup := by
  refine List.Pairwise.map Prod.fst ?_ d.ascending
  rintro a b hab he
  rw [he] at hab
  have hb : compare b.1 b.1 = .eq := Std.ReflCmp.compare_self
  exact absurd (hb.symm.trans hab) (by decide)

lemma mem_keys_iff (d : Dict κ ν) (k : κ) :
    k ∈ d.entries.map Prod.fst ↔ (d.get? k).isSome = true := by
  rw [List.mem_map, Option.isSome_iff_exists]
  constructor
  · rintro ⟨⟨l, v⟩, he, rfl⟩
    exact ⟨v, (mem_entries_iff d l v).mp he⟩
  · rintro ⟨v, hv⟩
    exact ⟨(k, v), (mem_entries_iff d k v).mpr hv, rfl⟩

variable [Std.TransOrd κ]

@[simp] lemma get?_insert_self (d : Dict κ ν) (k : κ) (v : ν) : (d.insert k v).get? k = some v := by
  simp only [get?, insert, find?_place_self, Option.map_some]

lemma get?_insert_ne (d : Dict κ ν) {k l : κ} (h : l ≠ k) (v : ν) :
    (d.insert k v).get? l = d.get? l := by
  simp only [get?, insert, find?_place_ne h]

lemma getD_update (d : Dict κ ν) (k l : κ) (initial : ν) (f : ν → ν) [DecidableEq κ] :
    ((d.update k initial f).get? l).getD initial =
      if l = k then f ((d.get? k).getD initial) else (d.get? l).getD initial := by
  split
  · rename_i h
    subst h
    simp [update]
  · rename_i h
    rw [update, get?_insert_ne d h]

theorem ext_get? {d e : Dict κ ν} (h : ∀ k, d.get? k = e.get? k) : d = e := by
  have nodup : ∀ f : Dict κ ν, f.entries.Nodup := fun f => List.Nodup.of_map Prod.fst f.keys_nodup
  have hp : d.entries.Perm e.entries := by
    rw [List.perm_ext_iff_of_nodup (nodup d) (nodup e)]
    rintro ⟨k, v⟩
    rw [mem_entries_iff, mem_entries_iff, h k]
  apply ext
  refine hp.eq_of_pairwise ?_ d.ascending e.ascending
  intro a b _ _ hab hba
  have hs : compare a.1 b.1 = (compare b.1 a.1).swap := Std.OrientedCmp.eq_swap
  rw [hab, hba] at hs
  exact absurd hs (by decide)

end RpcServer.Dict
