import Mathlib.Algebra.GroupWithZero.Nat
import Mathlib.Data.List.DropRight
import Mathlib.Tactic.Common
import RpcServer.Text.Blank
import RpcServer.Text.Split

/-! Trimming and cutting: what was trimmed has nothing left to trim, and texts that were joined are
cut where they were joined. -/

namespace RpcServer.Text

variable {sep c : Char} {s t : List Char}

lemma trim_eq (s : List Char) : trim s = (s.dropWhile isBlank).rdropWhile isBlank := rfl

lemma trim_sublist (s : List Char) : (trim s).Sublist s :=
  (List.rdropWhile_prefix isBlank _).sublist.trans (List.dropWhile_sublist isBlank)

lemma trim_eq_self (hd : ∀ h : 0 < s.length, isBlank s[0] = false)
    (hl : ∀ h : s ≠ [], isBlank (s.getLast h) = false) : trim s = s := by
  rw [trim_eq, List.dropWhile_eq_self_iff.mpr fun h => Bool.eq_false_iff.mp (hd h),
    List.rdropWhile_eq_self_iff.mpr fun h => Bool.eq_false_iff.mp (hl h)]

lemma trim_of_not_blank (h : ∀ c ∈ s, isBlank c = false) : trim s = s :=
  trim_eq_self (fun _ => h _ (List.getElem_mem _)) fun _ => h _ (List.getLast_mem _)

lemma trim_trim (s : List Char) : trim (trim s) = trim s := by
  have hp := List.rdropWhile_prefix isBlank (s.dropWhile isBlank)
  apply trim_eq_self
  · intro h
    rw [Bool.eq_false_iff, ne_eq]
    have hb := List.dropWhile_get_zero_not isBlank s (Nat.lt_of_lt_of_le h hp.length_le)
    rwa [List.get_eq_getElem, ← hp.getElem h] at hb
  · intro h
    exact Bool.eq_false_iff.mpr (List.rdropWhile_last_not isBlank _ h)

lemma beforeFirst_of_not_mem (h : sep ∉ s) : beforeFirst sep s = s :=
  List.takeWhile_eq_self_iff.mpr fun c hc => by
    simp only [ne_eq, decide_not, Bool.not_eq_eq_eq_not, Bool.not_true, decide_eq_false_iff_not]
    rintro rfl
    exact h hc

lemma not_mem_beforeFirst (sep : Char) (s : List Char) : sep ∉ beforeFirst sep s := by
  intro h
  simpa using List.mem_takeWhile_imp h

lemma cutFirst_append (h : sep ∉ s) (t : List Char) : cutFirst sep (s ++ sep :: t) = some (s, t) := by
  induction s with
  | nil => simp [cutFirst]
  | cons c cs ih =>
    rw [List.mem_cons, not_or] at h
    simp [cutFirst, Ne.symm h.1, ih h.2]

lemma eq_of_cutFirst {a b : List Char} (h : cutFirst sep s = some (a, b)) :
    s = a ++ sep :: b ∧ sep ∉ a := by
  induction s generalizing a with
  | nil => contradiction
  | cons c cs ih =>
    rw [cutFirst] at h
    split at h
    · rename_i hc
      obtain ⟨rfl, rfl⟩ := Prod.mk.inj (Option.some.inj h)
      exact ⟨by rw [hc]; rfl, List.not_mem_nil⟩
    · rename_i hc
      obtain ⟨⟨a', b'⟩, hp, he⟩ := Option.map_eq_some_iff.mp h
      obtain ⟨rfl, rfl⟩ := Prod.mk.inj he
      obtain ⟨hs, ha⟩ := ih hp
      exact ⟨by rw [hs]; rfl, fun hm => (List.mem_cons.mp hm).elim (fun e => hc e.symm) ha⟩

lemma cutFirst_eq (sep : Char) (s : List Char) : cutFirst sep s =
    if sep ∈ s then some (s.takeWhile (· ≠ sep), (s.dropWhile (· ≠ sep)).tail) else none := by
  induction s with
  | nil => rfl
  | cons c cs ih =>
    by_cases hc : c = sep
    · simp [cutFirst, hc]
    · simp only [cutFirst, if_neg hc, ih, List.mem_cons, Ne.symm hc, false_or]
      split <;> simp [hc]

lemma afterLast_of_not_mem (h : sep ∉ s) : afterLast sep s = s := by
  have hr : sep ∉ s.reverse := fun hm => h (List.mem_reverse.mp hm)
  have hb : s.reverse.takeWhile (· ≠ sep) = s.reverse := beforeFirst_of_not_mem hr
  rw [afterLast, hb, List.reverse_reverse]

lemma afterLast_append (s : List Char) (h : sep ∉ t) : afterLast sep (s ++ sep :: t) = t := by
  have hr : ∀ c ∈ t.reverse, decide (c ≠ sep) = true := by
    intro c hc
    rw [decide_eq_true_eq]
    rintro rfl
    exact h (List.mem_reverse.mp hc)
  rw [afterLast, List.reverse_append, List.reverse_cons, List.append_assoc,
    List.takeWhile_append_of_pos hr, List.singleton_append, List.takeWhile_cons_of_neg (by simp),
    List.append_nil, List.reverse_reverse]

lemma afterLast_eq_iff :
    afterLast sep s = t ↔ sep ∉ t ∧ (s = t ∨ ∃ front, s = front ++ sep :: t) := by
  constructor
  · rintro rfl
    have hs : s = (s.reverse.dropWhile (· ≠ sep)).reverse ++ afterLast sep s := by
      rw [afterLast, ← List.reverse_append, List.takeWhile_append_dropWhile, List.reverse_reverse]
    refine ⟨fun hm => not_mem_beforeFirst sep s.reverse (List.mem_reverse.mp hm), ?_⟩
    cases hd : s.reverse.dropWhile (· ≠ sep) with
    | nil =>
      rw [hd] at hs
      exact .inl hs
    | cons c cs =>
      obtain rfl : c = sep := by
        have hne : s.reverse.dropWhile (· ≠ sep) ≠ [] := by
          rw [hd]
          exact List.cons_ne_nil c cs
        have hc := List.head_dropWhile_not (· ≠ sep) hne
        simp only [hd, List.head_cons] at hc
        simpa using hc
      rw [hd, List.reverse_cons, List.append_assoc] at hs
      exact .inr ⟨cs.reverse, hs⟩
  · rintro ⟨hn, rfl | ⟨front, rfl⟩⟩
    · exact afterLast_of_not_mem hn
    · exact afterLast_append front hn

lemma pieces_eq_splitOn (sep : Char) (s : List Char) : pieces sep s = s.splitOn sep := by
  induction s with
  | nil => rfl
  | cons c cs ih =>
    rw [List.splitOn_cons_eq_if_modifyHead, ← ih]
    by_cases hc : c = sep
    · simp [pieces, hc]
    · simp only [pieces, if_neg hc, beq_iff_eq]
      cases hp : pieces sep cs with
      | nil => exact absurd hp (pieces_ne_nil sep cs)
      | cons p ps => rfl

lemma pieces_cons_ne (h : c ≠ sep) (s : List Char) :
    ∃ p ps, pieces sep s = p :: ps ∧ pieces sep (c :: s) = (c :: p) :: ps := by
  cases hp : pieces sep s with
  | nil => exact absurd hp (pieces_ne_nil sep s)
  | cons p ps => exact ⟨p, ps, rfl, by simp [pieces, h, hp]⟩

lemma pieces_of_not_mem (h : sep ∉ s) : pieces sep s = [s] := by
  induction s with
  | nil => rfl
  | cons c cs ih =>
    rw [List.mem_cons, not_or] at h
    obtain ⟨p, ps, hp, hc⟩ := pieces_cons_ne (Ne.symm h.1) cs
    rw [ih h.2] at hp
    obtain ⟨rfl, rfl⟩ := List.cons.inj hp
    exact hc

lemma pieces_append (h : sep ∉ s) (t : List Char) :
    pieces sep (s ++ sep :: t) = s :: pieces sep t := by
  induction s with
  | nil => exact pieces_cons_sep sep t
  | cons c cs ih =>
    rw [List.mem_cons, not_or] at h
    obtain ⟨p, ps, hp, hc⟩ := pieces_cons_ne (Ne.symm h.1) (cs ++ sep :: t)
    rw [ih h.2] at hp
    obtain ⟨rfl, rfl⟩ := List.cons.inj hp
    exact hc

lemma pieces_joined {ps : List (List Char)} (hn : ps ≠ []) (h : ∀ p ∈ ps, sep ∉ p) :
    pieces sep (joined [sep] ps) = ps := by
  induction ps with
  | nil => exact absurd rfl hn
  | cons p ps ih =>
    have hp := h p List.mem_cons_self
    cases ps with
    | nil => exact pieces_of_not_mem hp
    | cons q qs =>
      have hj : joined [sep] (p :: q :: qs) = p ++ sep :: joined [sep] (q :: qs) := by
        simp [joined]
      rw [hj, pieces_append hp,
        ih (List.cons_ne_nil q qs) fun r hr => h r (List.mem_cons_of_mem p hr)]

lemma joined_pieces (sep : Char) (s : List Char) : joined [sep] (pieces sep s) = s := by
  induction s with
  | nil => rfl
  | cons c cs ih =>
    by_cases hc : c = sep
    · subst hc
      rw [pieces_cons_sep]
      cases hp : pieces c cs with
      | nil => exact absurd hp (pieces_ne_nil c cs)
      | cons p ps => simpa [joined, ← hp] using ih
    · obtain ⟨p, ps, hp, hcs⟩ := pieces_cons_ne hc cs
      rw [hp] at ih
      rw [hcs, ← ih]
      cases ps <;> simp [joined]

lemma mem_of_mem_pieces {p : List Char} (h : p ∈ pieces sep s) (hc : c ∈ p) : c ∈ s ∧ c ≠ sep := by
  induction s generalizing p with
  | nil =>
    obtain rfl := List.mem_singleton.mp h
    contradiction
  | cons d ds ih =>
    by_cases hd : d = sep
    · subst hd
      rw [pieces_cons_sep] at h
      rcases List.mem_cons.mp h with rfl | h
      · contradiction
      · exact (ih h hc).imp_left (List.mem_cons_of_mem d)
    · obtain ⟨q, qs, hq, hp⟩ := pieces_cons_ne hd ds
      rw [hp] at h
      rcases List.mem_cons.mp h with rfl | h
      · rcases List.mem_cons.mp hc with rfl | hc
        · exact ⟨List.mem_cons_self, hd⟩
        · exact (ih (hq ▸ List.mem_cons_self) hc).imp_left (List.mem_cons_of_mem d)
      · exact (ih (hq ▸ List.mem_cons_of_mem q h) hc).imp_left (List.mem_cons_of_mem d)

lemma mem_joined {ps : List (List Char)} (h : c ∈ joined [sep] ps) :
    c = sep ∨ ∃ p ∈ ps, c ∈ p := by
  induction ps with
  | nil => contradiction
  | cons p ps ih =>
    cases ps with
    | nil => exact .inr ⟨p, List.mem_cons_self, h⟩
    | cons q qs =>
      simp only [joined, List.mem_append, List.mem_singleton] at h
      rcases h with (h | h) | h
      · exact .inr ⟨p, List.mem_cons_self, h⟩
      · exact .inl h
      · exact (ih h).imp_right fun ⟨r, hr, hc⟩ => ⟨r, List.mem_cons_of_mem p hr, hc⟩

def room : List (List Char) → ℕ
  | [] => 0
  | p :: ps => p.length + 1 + room ps

lemma room_eq_sum (ps : List (List Char)) : room ps = (ps.map fun p => p.length + 1).sum := by
  induction ps with
  | nil => rfl
  | cons p ps ih => rw [room, ih, List.map_cons, List.sum_cons]

lemma room_eq (ps : List (List Char)) : room ps = (ps.map List.length).sum + ps.length := by
  induction ps with
  | nil => rfl
  | cons p ps ih =>
    rw [room, ih, List.map_cons, List.sum_cons, List.length_cons]
    omega

lemma room_append (ps qs : List (List Char)) : room (ps ++ qs) = room ps + room qs := by
  induction ps with
  | nil => exact (Nat.zero_add _).symm
  | cons p ps ih => rw [List.cons_append, room, room, ih, ← Nat.add_assoc]

lemma length_joined (sep : Char) {ps : List (List Char)} (h : ps ≠ []) :
    (joined [sep] ps).length + 1 = room ps := by
  induction ps with
  | nil => exact absurd rfl h
  | cons p ps ih =>
    cases ps with
    | nil => rfl
    | cons q qs =>
      have hq := ih (List.cons_ne_nil q qs)
      simp only [joined, List.length_append, List.length_singleton, room] at hq ⊢
      omega

lemma room_pieces (sep : Char) (s : List Char) : room (pieces sep s) = s.length + 1 := by
  rw [← length_joined sep (pieces_ne_nil sep s), joined_pieces]

lemma length_le_flatMap_pieces (sep : Char) (ss : List (List Char)) :
    ss.length ≤ (ss.flatMap (pieces sep)).length := by
  induction ss with
  | nil => exact Nat.le_refl _
  | cons s ss ih =>
    have hs : 0 < (pieces sep s).length := List.length_pos_of_ne_nil (pieces_ne_nil sep s)
    rw [List.flatMap_cons, List.length_append, List.length_cons]
    omega

lemma room_flatMap_pieces (sep : Char) (ss : List (List Char)) :
    room (ss.flatMap (pieces sep)) = room ss := by
  induction ss with
  | nil => rfl
  | cons s ss ih => rw [List.flatMap_cons, room_append, room_pieces, ih, room]

end RpcServer.Text
