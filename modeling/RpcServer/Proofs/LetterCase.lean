import Mathlib.Tactic.Common
import RpcServer.Proofs.TextCuts
import RpcServer.Text.Case

/-! The case of ASCII letters does not matter for where a text is trimmed and cut: no letter is blank
and none is a separator. -/

namespace RpcServer.Text

def small (s : List Char) : List Char := s.map Char.toLower

lemma isAlpha_iff {c : Char} :
    c.isAlpha = true ↔ 65 ≤ c.toNat ∧ c.toNat ≤ 90 ∨ 97 ≤ c.toNat ∧ c.toNat ≤ 122 := by
  delta Char.isAlpha Char.isUpper Char.isLower
  simp [UInt32.le_iff_toNat_le]

lemma toLower_cases (c : Char) :
    (c.toNat < 65 ∨ 90 < c.toNat) ∧ c.toLower = c ∨
      (65 ≤ c.toNat ∧ c.toNat ≤ 90) ∧ c.toLower.toNat = c.toNat + 32 := by
  have hv : c.val.toNat = c.toNat := rfl
  have ha : 'A'.val.toNat = 65 := rfl
  have hz : 'Z'.val.toNat = 90 := rfl
  have hd : ('a'.val - 'A'.val).toNat = 32 := rfl
  by_cases h : c.val ≥ 'A'.val ∧ c.val ≤ 'Z'.val
  · have hl : c.toLower.val = c.val + ('a'.val - 'A'.val) := congrArg Char.val (dif_pos h)
    rw [ge_iff_le, UInt32.le_iff_toNat_le, UInt32.le_iff_toNat_le] at h
    refine .inr ⟨by omega, ?_⟩
    rw [Char.toNat, hl, UInt32.toNat_add]
    omega
  · have hl : c.toLower = c := dif_neg h
    rw [ge_iff_le, UInt32.le_iff_toNat_le, UInt32.le_iff_toNat_le] at h
    exact .inl ⟨by omega, hl⟩

lemma isAlpha_toLower (c : Char) : c.toLower.isAlpha = c.isAlpha := by
  rcases toLower_cases c with ⟨-, h⟩ | ⟨hc, h⟩
  · rw [h]
  · rw [Bool.eq_iff_iff, isAlpha_iff, isAlpha_iff, h]
    omega

lemma toLower_of_not_isAlpha {c : Char} (h : c.isAlpha = false) : c.toLower = c := by
  rcases toLower_cases c with ⟨-, hc⟩ | ⟨hc, -⟩
  · exact hc
  · rw [isAlpha_iff.mpr (.inl hc)] at h
    contradiction

lemma toLower_toLower (c : Char) : c.toLower.toLower = c.toLower := by
  rcases toLower_cases c with ⟨-, h⟩ | ⟨hc, h⟩
  · rw [h, h]
  · rcases toLower_cases c.toLower with ⟨-, hl⟩ | ⟨hl, -⟩
    · exact hl
    · omega

lemma toLower_eq_iff {c sep : Char} (h : sep.isAlpha = false) : c.toLower = sep ↔ c = sep := by
  constructor
  · intro he
    have hc : c.isAlpha = false := by rw [← isAlpha_toLower, he, h]
    rw [← he, toLower_of_not_isAlpha hc]
  · rintro rfl
    exact toLower_of_not_isAlpha h

lemma isBlank_of_isAlpha {c : Char} (h : c.isAlpha = true) : isBlank c = false := by
  have hc := isAlpha_iff.mp h
  have hr : ∀ r ∈ blankRanges, r.2 < 65 ∨ 122 < r.1 := by decide
  rw [isBlank, List.any_eq_false]
  intro r hm
  rw [Bool.and_eq_true, decide_eq_true_eq, decide_eq_true_eq]
  have := hr r hm
  omega

lemma isBlank_toLower (c : Char) : isBlank c.toLower = isBlank c := by
  cases h : c.isAlpha with
  | true => rw [isBlank_of_isAlpha h, isBlank_of_isAlpha ((isAlpha_toLower c).trans h)]
  | false => rw [toLower_of_not_isAlpha h]

lemma small_small (s : List Char) : small (small s) = small s := by
  rw [small, small, List.map_map]
  exact List.map_congr_left fun c _ => toLower_toLower c

variable {sep : Char}

lemma small_eq_singleton (h : sep.isAlpha = false) {s : List Char} :
    small s = [sep] ↔ s = [sep] := by
  rw [small, List.map_eq_singleton_iff]
  simp only [toLower_eq_iff h, exists_eq_right]

lemma trim_small (s : List Char) : trim (small s) = small (trim s) := by
  have hb : isBlank ∘ Char.toLower = isBlank := funext isBlank_toLower
  simp only [trim, trimLeft, trimRight, small, List.dropWhile_map, ← List.map_reverse, hb]

lemma takeWhile_small (h : sep.isAlpha = false) (s : List Char) :
    (small s).takeWhile (· ≠ sep) = small (s.takeWhile (· ≠ sep)) := by
  have hs : (fun c => decide (c ≠ sep)) ∘ Char.toLower = fun c => decide (c ≠ sep) := by
    funext c
    simp only [Function.comp_apply, ne_eq, toLower_eq_iff h]
  rw [small, List.takeWhile_map, hs, small]

lemma afterLast_small (h : sep.isAlpha = false) (s : List Char) :
    afterLast sep (small s) = small (afterLast sep s) := by
  have hr : (small s).reverse = small s.reverse := List.map_reverse.symm
  rw [afterLast, hr, takeWhile_small h, small, ← List.map_reverse, small, afterLast]

lemma cutFirst_small (h : sep.isAlpha = false) (s : List Char) :
    cutFirst sep (small s) = (cutFirst sep s).map (Prod.map small small) := by
  induction s with
  | nil => rfl
  | cons c cs ih =>
    have hc : small (c :: cs) = c.toLower :: small cs := rfl
    rw [hc, cutFirst, cutFirst, ih]
    simp only [toLower_eq_iff h]
    split
    · rfl
    · cases cutFirst sep cs <;> rfl

end RpcServer.Text
