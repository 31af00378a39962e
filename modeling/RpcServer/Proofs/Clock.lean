import Mathlib.Tactic.Common
import RpcServer.World

/-! The clock of a world, and what becomes of those who wait when it moves on. -/

namespace RpcServer.World

variable {w : World} {s : Signal} {t u : Instant}

lemma moveTo_of_le (h : t ≤ w.now) : w.moveTo t = w := by
  simp only [moveTo, if_pos h]

lemma moveTo_of_lt (h : w.now < t) : w.moveTo t =
    { w with
      now := t
      cancelled := (w.due.filter fun d => d.1 ≤ t).map (·.2) ++ w.cancelled
      due := w.due.filter fun d => !(d.1 ≤ t) } := by
  simp only [moveTo, if_neg (Int.not_le.mpr h)]

lemma le_moveTo_now (w : World) (t : Instant) : t ≤ (w.moveTo t).now := by
  by_cases h : t ≤ w.now
  · rw [moveTo_of_le h]
    exact h
  · have hn : (w.moveTo t).now = t := by rw [moveTo_of_lt (Int.not_le.mp h)]
    exact Int.le_of_eq hn.symm

lemma cancellation?_of_isCancelled (h : w.isCancelled s = true) :
    w.cancellation? s = some w.now := by
  simp only [cancellation?, h, ↓reduceIte]

lemma cancellation?_of_not (h : w.isCancelled s = false) :
    w.cancellation? s = ((w.due.filter fun d => d.2 = s).map (·.1)).min? := by
  simp only [cancellation?, h, Bool.false_eq_true, ↓reduceIte]

lemma mem_dueTimes : t ∈ (w.due.filter fun d => d.2 = s).map (·.1) ↔ (t, s) ∈ w.due := by
  simp

lemma due_of_cancellation? (h : w.cancellation? s = some t) (ht : w.now < t) :
    (t, s) ∈ w.due := by
  cases hc : w.isCancelled s with
  | true =>
    rw [cancellation?_of_isCancelled hc] at h
    rw [Option.some.inj h] at ht
    exact absurd ht (Int.lt_irrefl t)
  | false =>
    rw [cancellation?_of_not hc] at h
    exact mem_dueTimes.mp (List.min?_eq_some_iff.mp h).1

lemma isCancelled_moveTo (h : w.cancellation? s = some t) (ht : w.now < t) :
    (w.moveTo t).isCancelled s = true := by
  have hd := due_of_cancellation? h ht
  rw [moveTo_of_lt ht]
  simp only [isCancelled, List.contains_eq_mem, decide_eq_true_eq, List.mem_append]
  exact Or.inl (List.mem_map.mpr ⟨(t, s), List.mem_filter.mpr ⟨hd, by simp⟩, rfl⟩)

lemma cancellation?_moveTo (hu : w.now < u) (h : ∀ t, w.cancellation? s = some t → u < t) :
    (w.moveTo u).cancellation? s = w.cancellation? s := by
  have hc : w.isCancelled s = false := by
    cases hc : w.isCancelled s with
    | false => rfl
    | true =>
      have hback : u < w.now := h _ (cancellation?_of_isCancelled hc)
      exact absurd (Int.lt_trans hu hback) (Int.lt_irrefl w.now)
  have hlater : ∀ t, (t, s) ∈ w.due → u < t := by
    intro t ht
    rw [cancellation?_of_not hc] at h
    cases hm : ((w.due.filter fun d => d.2 = s).map (·.1)).min? with
    | none =>
      rw [← mem_dueTimes, List.min?_eq_none_iff.mp hm] at ht
      exact absurd ht List.not_mem_nil
    | some v =>
      have hv : v ≤ t := (List.min?_eq_some_iff.mp hm).2 t (mem_dueTimes.mpr ht)
      exact Int.lt_of_lt_of_le (h v hm) hv
  have hc' : (w.moveTo u).isCancelled s = false := by
    rw [moveTo_of_lt hu]
    simp only [isCancelled, List.contains_eq_mem, decide_eq_false_iff_not, List.mem_append,
      not_or] at hc ⊢
    refine ⟨?_, hc⟩
    intro hm
    obtain ⟨⟨t, v⟩, hd, rfl⟩ := List.mem_map.mp hm
    obtain ⟨hd, hle⟩ := List.mem_filter.mp hd
    have hle : t ≤ u := of_decide_eq_true hle
    exact Int.not_le.mpr (hlater t hd) hle
  have hdue : ((w.moveTo u).due.filter fun d => d.2 = s) = w.due.filter fun d => d.2 = s := by
    rw [moveTo_of_lt hu, List.filter_filter]
    apply List.filter_congr
    rintro ⟨t, v⟩ hd
    by_cases hs : v = s
    · subst hs
      have hlt : ¬ t ≤ u := Int.not_le.mpr (hlater t hd)
      simp [hlt]
    · simp [hs]
  rw [cancellation?_of_not hc', cancellation?_of_not hc, hdue]

lemma exists_cause {c : Context} {r : Resolution} (h : w.resolution? c = some r) :
    ∃ e, e ∈ r.causes := by
  simp only [resolution?] at h
  repeat' split at h
  · contradiction
  all_goals
    obtain rfl := Option.some.inj h
    exact ⟨_, List.mem_cons_self⟩

lemma Resolution.told?_of_mem {r : Resolution} {e : ServiceError} (h : e ∈ r.causes) :
    r.told? e = some e := if_pos h

lemma exists_told {c : Context} {r : Resolution} (h : w.resolution? c = some r)
    (favoured : ServiceError) : ∃ e ∈ r.causes, r.told? favoured = some e := by
  by_cases hf : favoured ∈ r.causes
  · exact ⟨favoured, hf, Resolution.told?_of_mem hf⟩
  · obtain ⟨e, he⟩ := exists_cause h
    have hne : r.causes ≠ [] := List.ne_nil_of_mem he
    exact ⟨r.causes.head hne, List.head_mem hne, (if_neg hf).trans (List.head?_eq_some_head hne)⟩

lemma resolution?_le {c : Context} {r : Resolution} {d : Instant}
    (h : w.resolution? c = some r) (hd : c.deadline = some d) : r.time ≤ max w.now d := by
  simp only [resolution?, hd, Option.map_some] at h
  cases hc : w.cancellation? c.signal with
  | none =>
    rw [hc] at h
    obtain rfl := Option.some.inj h
    exact Int.le_refl _
  | some t =>
    simp only [hc] at h
    split at h
    · rename_i ht
      obtain rfl := Option.some.inj h
      exact Int.le_of_lt ht
    · rename_i ht
      split at h
      · obtain rfl := Option.some.inj h
        exact Int.le_refl _
      · rename_i hdt
        obtain rfl := Option.some.inj h
        exact Int.not_lt.mp hdt

lemma resolution?_moveTo {c : Context} {r : Resolution} (h : w.resolution? c = some r) :
    (w.moveTo r.time).resolution? c = some r := by
  by_cases hle : r.time ≤ w.now
  · rw [moveTo_of_le hle]
    exact h
  have hlt : w.now < r.time := Int.not_le.mp hle
  have hnow : (w.moveTo r.time).now = r.time := by rw [moveTo_of_lt hlt]
  cases hd : c.deadline with
  | none =>
    cases hc : w.cancellation? c.signal with
    | none => simp [resolution?, hc, hd] at h
    | some t =>
      simp only [resolution?, hc, hd, Option.map_none, Option.some.injEq] at h
      subst h
      have hc' := cancellation?_of_isCancelled (isCancelled_moveTo hc hlt)
      simp only [resolution?, hc', hd, hnow, Option.map_none]
  | some d =>
    -- a deadline that has passed would have ended the wait already
    have hnd : w.now < d := by
      refine Int.not_le.mp fun hdn => Int.not_le.mpr hlt ?_
      have hmax := resolution?_le h hd
      rwa [Int.max_eq_left hdn] at hmax
    have hd' : max w.now d = d := Int.max_eq_right (Int.le_of_lt hnd)
    simp only [resolution?, hd, Option.map_some, hd'] at h
    cases hc : w.cancellation? c.signal with
    | none =>
      have hc' := cancellation?_moveTo hlt (s := c.signal) (by simp [hc])
      simp only [hc, Option.some.injEq] at h
      subst h
      simp only [resolution?, hc', hc, hd, hnow, Option.map_some, Int.max_self]
    | some t =>
      simp only [hc] at h
      rcases Int.lt_trichotomy t d with htd | htd | htd
      · rw [if_pos htd, Option.some.injEq] at h
        subst h
        have hc' := cancellation?_of_isCancelled (isCancelled_moveTo hc hlt)
        simp only [resolution?, hc', hd, hnow, Option.map_some]
        rw [Int.max_eq_right (Int.le_of_lt htd), if_pos htd]
      · subst htd
        simp only [Int.lt_irrefl, ↓reduceIte, Option.some.injEq] at h
        subst h
        have hc' := cancellation?_of_isCancelled (isCancelled_moveTo hc hlt)
        simp only [resolution?, hc', hd, hnow, Option.map_some, Int.max_self, Int.lt_irrefl,
          ↓reduceIte]
      · rw [if_neg (Int.not_lt.mpr (Int.le_of_lt htd)), if_pos htd, Option.some.injEq] at h
        subst h
        have hc' := cancellation?_moveTo hlt (s := c.signal) fun v hv => by
          rw [hc, Option.some.injEq] at hv
          exact hv ▸ htd
        simp only [resolution?, hc', hc, hd, hnow, Option.map_some, Int.max_self]
        rw [if_neg (Int.not_lt.mpr (Int.le_of_lt htd)), if_pos htd]

end RpcServer.World
