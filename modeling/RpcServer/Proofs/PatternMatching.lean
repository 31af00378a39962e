import Mathlib.Data.List.TakeWhile
import Mathlib.Tactic.Common
import RpcServer.Http.Pattern

/-! The paths that a pattern takes, and the search for a pattern that takes a path. The search finds
one if there is one, and for patterns that do not conflict their order does not matter. -/

namespace RpcServer.Http

namespace Pattern

/-- Paths of a pattern. A parameter takes what is left of a segment, and something of it at the end of
the path; a catch-all takes what is left of the path. -/
inductive Matches : Pattern → List Char → Prop where
  | nil : Matches [] []
  | literal {p : Pattern} {cs : List Char} (c : Char) : Matches p cs →
      Matches (.literal c :: p) (c :: cs)
  | last {segment : List Char} : segment ≠ [] → (∀ c ∈ segment, c ≠ '/') →
      Matches [.parameter] segment
  | inner {segment cs : List Char} {p : Pattern} : (∀ c ∈ segment, c ≠ '/') → Matches p cs →
      Matches (.parameter :: .literal '/' :: p) (segment ++ '/' :: cs)
  | rest {cs : List Char} : cs ≠ [] → Matches [.rest] cs

lemma segment_of_dropWhile {cs rest : List Char} {d : Char}
    (h : cs.dropWhile (· ≠ '/') = d :: rest) :
    ∃ segment, (∀ c ∈ segment, c ≠ '/') ∧ d = '/' ∧ cs = segment ++ '/' :: rest := by
  have hd := List.head?_dropWhile_not (· ≠ '/') cs
  rw [h] at hd
  obtain rfl : d = '/' := by simpa using hd
  refine ⟨cs.takeWhile (· ≠ '/'), fun c hc => ?_, rfl, ?_⟩
  · simpa using List.mem_takeWhile_imp hc
  · rw [← h, List.takeWhile_append_dropWhile]

lemma dropWhile_of_segment {segment cs : List Char} (h : ∀ c ∈ segment, c ≠ '/') :
    (segment ++ '/' :: cs).dropWhile (· ≠ '/') = '/' :: cs := by
  rw [List.dropWhile_append_of_pos fun c hc => by simpa using h c hc]
  rfl

lemma Matches.eq_nil {p : Pattern} {cs : List Char} (h : p.Matches cs) (hc : cs = []) : p = [] := by
  cases h <;> simp_all

lemma Matches.start {p : Pattern} {c : Char} {cs : List Char} (h : p.Matches (c :: cs)) :
    (∃ q : Pattern, p = .literal c :: q ∧ q.Matches cs) ∨ p = [.rest] ∨
    (p = [.parameter] ∧ (c :: cs).dropWhile (· ≠ '/') = []) ∨
    ∃ (q : Pattern) (rest : List Char), p = .parameter :: .literal '/' :: q ∧
      (c :: cs).dropWhile (· ≠ '/') = '/' :: rest ∧ q.Matches rest := by
  generalize he : c :: cs = path at h
  cases h with
  | nil => contradiction
  | literal d h =>
    obtain ⟨rfl, rfl⟩ := List.cons.inj he
    exact .inl ⟨_, rfl, h⟩
  | last _ hs =>
    subst he
    exact .inr (.inr (.inl ⟨rfl, List.dropWhile_eq_nil_iff.mpr fun d hd => by simpa using hs d hd⟩))
  | inner hs h => exact .inr (.inr (.inr ⟨_, _, rfl, he ▸ dropWhile_of_segment hs, h⟩))
  | rest _ => exact .inr (.inl rfl)

end Pattern

namespace Routes

variable {α β : Type} {rs ts : Routes α} {p : Pattern} {a : α} {path : List Char}

lemma mem_after {q : Piece} : (p, a) ∈ after q rs ↔ (q :: p, a) ∈ rs := by
  simp only [after, List.mem_filterMap]
  constructor
  · rintro ⟨⟨_ | ⟨q', p'⟩, a'⟩, hr, he⟩
    · simp at he
    · simp only [Option.ite_none_right_eq_some, Option.some.injEq, Prod.mk.injEq] at he
      obtain ⟨rfl, rfl, rfl⟩ := he
      exact hr
  · intro hr
    exact ⟨_, hr, by simp⟩

lemma mem_of_ended (h : ended rs = some a) : ([], a) ∈ rs := by
  obtain ⟨⟨p, a'⟩, hf, rfl⟩ := Option.map_eq_some_iff.mp h
  have hp : p = [] := by simpa using List.find?_some hf
  exact hp ▸ List.mem_of_find?_eq_some hf

lemma not_mem_of_ended (h : ended rs = none) : ([], a) ∉ rs := by
  simp only [ended, Option.map_eq_none_iff, List.find?_eq_none] at h
  intro hm
  exact h _ hm rfl

lemma find?_cons (rs : Routes α) (c : Char) (cs : List Char) :
    find? rs (c :: cs) =
      ((find? (after (.literal c) rs) cs).or (ended (after .rest rs))).or
        (match (c :: cs).dropWhile (· ≠ '/') with
        | [] => ended (after .parameter rs)
        | d :: rest => find? (after (.literal d) (after .parameter rs)) rest) := by
  rw [find?]
  cases find? (after (.literal c) rs) cs with
  | some a => rfl
  | none =>
    cases ended (after .rest rs) with
    | some a => rfl
    | none =>
      rw [Option.or_none, Option.none_or]
      dsimp only
      split <;> rename_i hd <;> rw [hd]

lemma find?_sound (h : find? rs path = some a) : ∃ p, (p, a) ∈ rs ∧ p.Matches path := by
  fun_induction find? rs path with
  | case1 rs => exact ⟨[], mem_of_ended h, .nil⟩
  | case2 rs c cs a' hl ih =>
    obtain ⟨p, hp, hm⟩ := ih (hl.trans h)
    exact ⟨_, mem_after.mp hp, .literal c hm⟩
  | case3 rs c cs _ a' hr =>
    exact ⟨_, mem_after.mp (mem_of_ended (hr.trans h)), .rest (List.cons_ne_nil c cs)⟩
  | case4 rs c cs _ _ hd =>
    have hs : ∀ x ∈ c :: cs, x ≠ '/' := by simpa using List.dropWhile_eq_nil_iff.mp hd
    exact ⟨_, mem_after.mp (mem_of_ended h), .last (List.cons_ne_nil c cs) hs⟩
  | case5 rs c cs _ _ d rest hd _ ih =>
    obtain ⟨p, hp, hm⟩ := ih h
    obtain ⟨segment, hs, rfl, he⟩ := Pattern.segment_of_dropWhile hd
    exact ⟨_, mem_after.mp (mem_after.mp hp), he ▸ .inner hs hm⟩

lemma find?_complete (h : find? rs path = none) (hp : (p, a) ∈ rs) : ¬ p.Matches path := by
  intro hm
  -- each way in which a pattern can start is one that the search has tried
  fun_induction find? rs path generalizing p with
  | case1 rs =>
    rw [hm.eq_nil rfl] at hp
    exact not_mem_of_ended h hp
  | case2 | case3 => contradiction
  | case4 rs c cs hl hr hd ih =>
    rcases hm.start with ⟨q, rfl, hq⟩ | rfl | ⟨rfl, -⟩ | ⟨q, rest, rfl, hd', -⟩
    · exact ih hl (mem_after.mpr hp) hq
    · exact not_mem_of_ended hr (mem_after.mpr hp)
    · exact not_mem_of_ended h (mem_after.mpr hp)
    · rw [hd'] at hd
      contradiction
  | case5 rs c cs hl hr d rest hd ih₁ ih₂ =>
    rcases hm.start with ⟨q, rfl, hq⟩ | rfl | ⟨rfl, hd'⟩ | ⟨q, rest', rfl, hd', hq⟩
    · exact ih₁ hl (mem_after.mpr hp) hq
    · exact not_mem_of_ended hr (mem_after.mpr hp)
    · rw [hd'] at hd
      contradiction
    · obtain ⟨rfl, rfl⟩ := List.cons.inj (hd.symm.trans hd')
      exact ih₂ h (mem_after.mpr (mem_after.mpr hp)) hq

variable (f : α → β)

def mapValues (rs : Routes α) : Routes β := rs.map fun r => (r.1, f r.2)

lemma after_mapValues (q : Piece) : after q (rs.mapValues f) = (after q rs).mapValues f := by
  simp only [after, mapValues, List.filterMap_map, List.map_filterMap]
  congr 1
  funext r
  obtain ⟨_ | ⟨q', p⟩, a⟩ := r
  · rfl
  · simp only [Function.comp_apply]
    split <;> simp_all

lemma ended_mapValues : ended (rs.mapValues f) = (ended rs).map f := by
  simp only [ended, mapValues, List.find?_map, Option.map_map]
  rfl

lemma find?_mapValues : find? (rs.mapValues f) path = (find? rs path).map f := by
  fun_induction find? rs path with
  | case1 rs => rw [find?, ended_mapValues]
  | case2 rs c cs a hl ih =>
    rw [find?_cons, after_mapValues, ih, hl]
    rfl
  | case3 rs c cs hl a hr ih =>
    rw [find?_cons, after_mapValues, ih, hl, after_mapValues, ended_mapValues, hr]
    rfl
  | case4 rs c cs hl hr hd ih =>
    rw [find?_cons, after_mapValues, ih, hl, after_mapValues, ended_mapValues, hr, hd,
      after_mapValues]
    exact ended_mapValues f
  | case5 rs c cs hl hr d rest hd ih₁ ih₂ =>
    rw [find?_cons, after_mapValues, ih₁, hl, after_mapValues, ended_mapValues, hr, hd,
      after_mapValues, ← ih₂, ← after_mapValues f (.literal d)]
    rfl

def Apart (rs : Routes α) : Prop :=
  ∀ r ∈ rs, ∀ t ∈ rs, Pattern.conflicts r.1 t.1 = true → r = t

lemma Apart.after (h : rs.Apart) (q : Piece) : (after q rs).Apart := by
  rintro ⟨p, a⟩ hr ⟨p', a'⟩ ht hc
  -- patterns that conflict still do so behind one more piece
  have hq : Pattern.conflicts (q :: p) (q :: p') = true := by cases q <;> simp_all [Pattern.conflicts]
  simpa using h _ (mem_after.mp hr) _ (mem_after.mp ht) hq

lemma Apart.ended_iff (h : rs.Apart) : ended rs = some a ↔ ([], a) ∈ rs := by
  refine ⟨mem_of_ended, fun hm => ?_⟩
  cases he : ended rs with
  | none => exact absurd hm (not_mem_of_ended he)
  | some a' =>
    have hp := h _ hm _ (mem_of_ended he) rfl
    simpa [eq_comm] using hp

lemma Apart.ended_congr (h : rs.Apart) (hm : ∀ r, r ∈ rs ↔ r ∈ ts) : ended rs = ended ts := by
  have ht : ts.Apart := fun r hr t ht => h r ((hm r).mpr hr) t ((hm t).mpr ht)
  apply Option.ext
  intro a
  rw [h.ended_iff, ht.ended_iff, hm]

lemma after_congr (hm : ∀ r, r ∈ rs ↔ r ∈ ts) (q : Piece) (r : Pattern × α) :
    r ∈ after q rs ↔ r ∈ after q ts := by
  obtain ⟨p, a⟩ := r
  rw [mem_after, mem_after, hm]

lemma Apart.find?_congr (h : rs.Apart) (hm : ∀ r, r ∈ rs ↔ r ∈ ts) :
    find? rs path = find? ts path := by
  -- the routes behind a piece are apart again, and the same on both sides
  fun_induction find? rs path generalizing ts with
  | case1 rs => rw [find?, h.ended_congr hm]
  | case2 rs c cs a hl ih =>
    rw [find?_cons, ← ih (h.after _) (after_congr hm _), hl]
    rfl
  | case3 rs c cs hl a hr ih =>
    rw [find?_cons, ← ih (h.after _) (after_congr hm _), hl,
      ← (h.after _).ended_congr (after_congr hm _), hr]
    rfl
  | case4 rs c cs hl hr hd ih =>
    rw [find?_cons, ← ih (h.after _) (after_congr hm _), hl,
      ← (h.after _).ended_congr (after_congr hm _), hr, hd]
    exact (h.after _).ended_congr (after_congr hm _)
  | case5 rs c cs hl hr d rest hd ih₁ ih₂ =>
    rw [find?_cons, ← ih₁ (h.after _) (after_congr hm _), hl,
      ← (h.after _).ended_congr (after_congr hm _), hr, hd]
    exact ih₂ ((h.after _).after _) (after_congr (after_congr hm _) _)

end Routes

end RpcServer.Http
