import Mathlib.Data.Finset.Card
import Mathlib.Data.Finset.Range
import RpcServer.Proofs.Broadcast

/-! What subscribers get and what is logged in the course of a run. Those who are there when the
signal is fired get it once, at their first asking, and nobody gets it sooner or twice. -/

namespace RpcServer.Shutdown

def receipts (k : ℕ) (s : Shutdown) : List Step → List Receipt
  | [] => []
  | x :: xs =>
    if x = .receive k then (s.receive k).1 :: receipts k (s.step x) xs else receipts k (s.step x) xs

def logs (s : Shutdown) : List Step → List Log.Event
  | [] => []
  | x :: xs => (if x = .trigger then s.trigger.2 else []) ++ logs (s.step x) xs

structure Roster where
  made : ℕ
  dropped : Finset ℕ

def Roster.step (r : Roster) : Step → Roster
  | .subscribe => { r with made := r.made + 1 }
  | .leave k => if k < r.made then { r with dropped := insert k r.dropped } else r
  | .trigger | .receive _ => r

def roster (steps : List Step) : Roster := steps.foldl Roster.step ⟨0, ∅⟩

def Roster.Live (r : Roster) (k : ℕ) : Prop := k < r.made ∧ k ∉ r.dropped

instance (r : Roster) (k : ℕ) : Decidable (r.Live k) := inferInstanceAs (Decidable (_ ∧ _))

def Roster.live (r : Roster) : ℕ := r.made - r.dropped.card

variable {s : Shutdown} {r : Roster} {k : ℕ} {x : Step} {xs : List Step}

lemma receipts_append (k : ℕ) (s : Shutdown) (xs ys : List Step) :
    receipts k s (xs ++ ys) = receipts k s xs ++ receipts k (s.run xs) ys := by
  induction xs generalizing s with
  | nil => rfl
  | cons x xs ih =>
    rw [List.cons_append, receipts, receipts, ih, run_cons]
    split <;> rfl

lemma logs_append (s : Shutdown) (xs ys : List Step) :
    logs s (xs ++ ys) = logs s xs ++ logs (s.run xs) ys := by
  induction xs generalizing s with
  | nil => rfl
  | cons x xs ih => rw [List.cons_append, logs, ih, logs, List.append_assoc, run_cons]

lemma after_snoc (xs : List Step) (x : Step) : after (xs ++ [x]) = (after xs).step x :=
  run_append new xs [x]

lemma after_triggered (xs : List Step) : (after xs).triggered = decide (.trigger ∈ xs) := by
  simpa [after, new] using run_triggered new xs

lemma roster_snoc (xs : List Step) (x : Step) : roster (xs ++ [x]) = (roster xs).step x := by
  simp [roster]

def presence (s : Shutdown) : List Bool := s.channel.cursors.map Option.isSome

def Roster.presence (r : Roster) : List Bool := (List.range r.made).map fun k => k ∉ r.dropped

def attended (p : List Bool) : Step → List Bool
  | .subscribe => p ++ [true]
  | .leave k => p.set k false
  | .trigger | .receive _ => p

lemma presence_set {c d : ℕ} (h : s.channel.cursors[k]? = some (some c)) :
    (s.channel.cursors.set k (some d)).map Option.isSome = s.presence := by
  obtain ⟨hk, hc⟩ := List.getElem?_eq_some_iff.mp h
  have hp : k < s.presence.length := by simpa [presence] using hk
  have ht : true = s.presence[k] := by simp [presence, hc]
  rw [List.map_set, Option.isSome_some, ht]
  exact List.set_getElem_self _

lemma step_presence (s : Shutdown) (x : Step) : (s.step x).presence = attended s.presence x := by
  cases x with
  | subscribe => simp [presence, attended, step, subscribe, Channel.subscribe]
  | leave k => simp [presence, attended, step, leave, Channel.leave]
  | trigger =>
    simp only [presence, attended, step, trigger, Channel.send]
    repeat' split
    all_goals rfl
  | receive k =>
    simp only [attended, step, receive, Channel.receive]
    -- a cursor that is moved is still there
    repeat' split
    all_goals first | rfl | exact presence_set ‹_›

lemma Roster.getElem?_presence (r : Roster) (j : ℕ) :
    r.presence[j]? = if j < r.made then some (decide (j ∉ r.dropped)) else none := by
  simp only [presence, List.getElem?_map]
  split
  · next h => rw [List.getElem?_range h, Option.map_some]
  · next h => simp [h]

lemma Roster.step_presence (hr : ∀ j ∈ r.dropped, j < r.made) (x : Step) :
    (r.step x).presence = attended r.presence x := by
  cases x with
  | trigger | receive _ => rfl
  | subscribe =>
    have hm : r.made ∉ r.dropped := fun h => (hr _ h).ne rfl
    simp only [presence, attended, step, List.range_succ, List.map_append, List.map_cons,
      List.map_nil]
    exact congrArg (_ ++ [·]) (decide_eq_true hm)
  | leave k =>
    apply List.ext_getElem?
    intro j
    have hl : r.presence.length = r.made := by simp [presence]
    simp only [attended, List.getElem?_set, getElem?_presence, hl, step]
    split_ifs <;> simp_all
    omega

lemma Roster.step_dropped (hr : ∀ j ∈ r.dropped, j < r.made) (x : Step) :
    ∀ j ∈ (r.step x).dropped, j < (r.step x).made := by
  cases x with
  | trigger | receive _ => exact hr
  | subscribe => exact fun j hj => (hr j hj).trans (Nat.lt_succ_self _)
  | leave k =>
    simp only [step]
    split
    · next hk =>
      intro j hj
      rcases Finset.mem_insert.mp hj with rfl | hj
      · exact hk
      · exact hr j hj
    · exact hr

lemma roster_dropped (xs : List Step) : ∀ j ∈ (roster xs).dropped, j < (roster xs).made := by
  induction xs using List.reverseRecOn with
  | nil => simp [roster]
  | append_singleton xs x ih =>
    rw [roster_snoc]
    exact Roster.step_dropped ih x

lemma after_presence (xs : List Step) : (after xs).presence = (roster xs).presence := by
  induction xs using List.reverseRecOn with
  | nil => rfl
  | append_singleton xs x ih =>
    rw [after_snoc, roster_snoc, step_presence, Roster.step_presence (roster_dropped xs), ih]

lemma Roster.count_presence (hr : ∀ j ∈ r.dropped, j < r.made) :
    r.presence.count true = r.live := by
  have hs : r.dropped ⊆ Finset.range r.made := fun j hj => Finset.mem_range.mpr (hr j hj)
  have hf : ((List.range r.made).filter fun j => j ∉ r.dropped).toFinset =
      Finset.range r.made \ r.dropped := by
    ext j
    simp
  have hn : ((List.range r.made).filter fun j => j ∉ r.dropped).Nodup :=
    List.nodup_range.filter _
  have hc : r.presence.count true =
      ((List.range r.made).filter fun j => j ∉ r.dropped).length := by
    simp [presence, List.count, List.countP_eq_length_filter, List.filter_map, Function.comp_def]
  rw [hc, ← List.toFinset_card_of_nodup hn, hf, Finset.card_sdiff_of_subset hs, Finset.card_range,
    live]

lemma after_receivers (xs : List Step) : (after xs).receivers = (roster xs).live := by
  rw [← Roster.count_presence (roster_dropped xs), ← after_presence, receivers, Channel.receivers,
    presence, List.count, List.countP_map, ← List.countP_eq_length_filter]
  simp [Function.comp_def]

def Has (s : Shutdown) (k : ℕ) : Prop := s.presence[k]? = some true

lemma has_iff : s.Has k ↔ ∃ c, s.channel.cursors[k]? = some (some c) := by
  simp [Has, presence, Option.isSome_iff_exists]

lemma has_step (h : (s.step x).Has k) :
    s.Has k ∧ x ≠ .leave k ∨ x = .subscribe ∧ k = s.channel.cursors.length := by
  rw [Has, step_presence] at h
  cases x with
  | trigger | receive j => exact .inl ⟨h, by simp⟩
  | subscribe =>
    have hl : s.presence.length = s.channel.cursors.length := by simp [presence]
    rw [attended, List.getElem?_append] at h
    split at h
    · exact .inl ⟨h, by simp⟩
    · next hk =>
      have hz : k - s.presence.length = 0 := by
        rw [List.getElem?_singleton] at h
        simpa using h
      exact .inr ⟨rfl, by omega⟩
  | leave j =>
    rw [attended, List.getElem?_set] at h
    split at h
    · simp at h
    · next hj => exact .inl ⟨h, fun e => hj (Step.leave.inj e)⟩

lemma live_iff (xs : List Step) (k : ℕ) : (roster xs).Live k ↔ (after xs).Has k := by
  rw [Has, after_presence, Roster.getElem?_presence, Roster.Live]
  split <;> simp_all

lemma receive_of_not_has (h : ¬ s.Has k) : s.receive k = (.gone, s) := by
  simp only [receive, Channel.receive]
  split
  · next c hc => exact absurd (has_iff.mpr ⟨c, hc⟩) h
  · rfl

def Served (k : ℕ) (s : Shutdown) : Prop := Late k s ∨ s.presence[k]? = some false

structure Attended (s : Shutdown) : Prop extends Sound s where
  each : ∀ k, s.Has k → Early k s ∨ Late k s

lemma Early.receive_late (h : Early k s) (ht : s.triggered = true) : Late k (s.receive k).2 := by
  have hs : s.channel.sent = 1 := by rw [h.sent, ht]; rfl
  have hk := lt_subscribers h.cursor
  have hr : (s.receive k).2 =
      { s with channel := { s.channel with cursors := s.channel.cursors.set k (some 1) } } := by
    simp only [receive, Channel.receive, h.cursor, hs, Nat.zero_add, ↓reduceIte, Nat.zero_ne_one]
  rw [hr]
  exact ⟨ht, by simp [hk, hs]⟩

lemma Attended.receive (h : s.Attended) (hk : s.Has k) :
    (s.receive k).1 = .ok ∧ s.triggered = true ∧ Late k (s.receive k).2 ∨
      s.receive k = (.empty, s) := by
  rcases h.each k hk with he | hl
  · cases ht : s.triggered with
    | true => exact .inl ⟨he.receive_triggered ht, rfl, he.receive_late ht⟩
    | false =>
      have hs : s.channel.sent = 0 := by rw [he.sent, ht]; rfl
      simp [Shutdown.receive, Channel.receive, he.cursor, hs, h.isOpen]
  · rw [hl.receive, h.isOpen]
    exact .inr rfl

lemma Attended.receive_ok (h : s.Attended) (hr : (s.receive k).1 = .ok) :
    s.triggered = true ∧ Late k (s.receive k).2 := by
  by_cases hk : s.Has k
  · rcases h.receive hk with ⟨-, hl⟩ | he
    · exact hl
    · rw [he] at hr
      cases hr
  · rw [receive_of_not_has hk] at hr
    cases hr

lemma Attended.step_each (h : s.Attended) (hk : s.Has k) (hl : x ≠ .leave k) :
    Early k (s.step x) ∨ Late k (s.step x) := by
  rcases h.each k hk with he | hlate
  · by_cases hx : x = .receive k ∧ (s.receive k).1 = .ok
    · obtain ⟨rfl, hr⟩ := hx
      exact .inr (h.receive_ok hr).2
    · exact .inl (he.step hl fun e hr => hx ⟨e, hr⟩)
  · exact .inr (hlate.step hl)

lemma step_attended (h : s.Attended) (x : Step) : (s.step x).Attended := by
  refine ⟨step_sound h.toSound x, fun k hk => ?_⟩
  rcases has_step hk with ⟨hs, hl⟩ | ⟨rfl, rfl⟩
  · exact h.step_each hs hl
  · have hc : s.subscribe.channel.cursors[s.channel.cursors.length]? =
        some (some s.channel.sent) := by simp [subscribe, Channel.subscribe]
    cases ht : s.triggered with
    | true => exact .inr ⟨ht, hc⟩
    | false =>
      have hs : s.channel.sent = 0 := h.unsent ht
      have hsent : s.subscribe.channel.sent = if s.subscribe.triggered then 1 else 0 := by
        simp [subscribe, Channel.subscribe, ht, hs]
      exact .inl ⟨hs ▸ hc, hsent⟩

lemma run_attended (h : s.Attended) (xs : List Step) : (s.run xs).Attended := by
  induction xs generalizing s with
  | nil => exact h
  | cons x xs ih => exact ih (step_attended h x)

lemma after_attended (xs : List Step) : (after xs).Attended :=
  run_attended ⟨⟨rfl, fun _ => rfl⟩, by simp [Has, presence, new, Channel.new]⟩ xs

lemma Served.step (h : Served k s) (x : Step) : Served k (s.step x) := by
  rcases h with hl | hn
  · by_cases hx : x = .leave k
    · refine .inr ?_
      subst hx
      have hk : k < s.presence.length := by
        simpa [presence] using lt_subscribers hl.cursor
      rw [step_presence, attended, List.getElem?_set_self hk]
    · exact .inl (hl.step hx)
  · have hk : k < s.presence.length := (List.getElem?_eq_some_iff.mp hn).1
    refine .inr ?_
    rw [step_presence]
    cases x with
    | trigger | receive j => exact hn
    | subscribe => rw [attended, List.getElem?_append_left hk, hn]
    | leave j =>
      rw [attended, List.getElem?_set]
      split <;> simp_all

lemma Served.receive (h : Served k s) : (s.receive k).1 ≠ .ok := by
  rcases h with hl | hn
  · rw [hl.receive]
    split <;> simp
  · have hk : ¬ s.Has k := by simp [Has, hn]
    simp [receive_of_not_has hk]

lemma Served.receipts (h : Served k s) (xs : List Step) : .ok ∉ receipts k s xs := by
  induction xs generalizing s with
  | nil => simp [Shutdown.receipts]
  | cons x xs ih =>
    rw [Shutdown.receipts]
    split
    · exact List.not_mem_cons_of_ne_of_not_mem h.receive.symm (ih (h.step x))
    · exact ih (h.step x)

lemma Attended.receipts_untriggered (h : s.Attended) (ht : s.triggered = false)
    (hx : .trigger ∉ xs) : .ok ∉ receipts k s xs := by
  induction xs generalizing s with
  | nil => simp [receipts]
  | cons x xs ih =>
    rw [List.mem_cons, not_or] at hx
    have hstep : (s.step x).triggered = false := by
      rw [step_triggered, ht, Bool.false_or, decide_eq_false (Ne.symm hx.1)]
    have hr : (s.receive k).1 ≠ .ok := fun e => by simp [(h.receive_ok e).1] at ht
    rw [receipts]
    split
    · exact List.not_mem_cons_of_ne_of_not_mem hr.symm (ih (step_attended h x) hstep hx.2)
    · exact ih (step_attended h x) hstep hx.2

lemma Attended.count_receipts_le (h : s.Attended) (k : ℕ) (xs : List Step) :
    (receipts k s xs).count .ok ≤ 1 := by
  induction xs generalizing s with
  | nil => simp [receipts]
  | cons x xs ih =>
    have hrest := ih (step_attended h x)
    rw [receipts]
    split
    · next hx =>
      by_cases hr : (s.receive k).1 = .ok
      · have hserved : Served k (s.step x) := hx ▸ .inl (h.receive_ok hr).2
        rw [hr, List.count_cons_self, List.count_eq_zero_of_not_mem (hserved.receipts xs)]
      · rwa [List.count_cons_of_ne hr]
    · exact hrest

lemma Late.receipts (h : Late k s) (hs : s.Sound) (hl : .leave k ∉ xs) :
    receipts k s xs = List.replicate (xs.count (.receive k)) .empty := by
  induction xs generalizing s with
  | nil => rfl
  | cons x xs ih =>
    rw [List.mem_cons, not_or] at hl
    have hrest := ih (h.step (Ne.symm hl.1)) (step_sound hs x) hl.2
    rw [Shutdown.receipts, hrest, h.receive, hs.isOpen]
    split
    · next hx =>
      rw [hx, List.count_cons_self, List.replicate_succ]
      rfl
    · next hx => rw [List.count_cons_of_ne hx]

def dueReceipts : ℕ → List Receipt
  | 0 => []
  | n + 1 => .ok :: List.replicate n .empty

lemma Early.receipts (h : Early k s) (hs : s.Attended) (ht : s.triggered = true)
    (hl : .leave k ∉ xs) : receipts k s xs = dueReceipts (xs.count (.receive k)) := by
  induction xs generalizing s with
  | nil => rfl
  | cons x xs ih =>
    rw [List.mem_cons, not_or] at hl
    have hstep : (s.step x).triggered = true := by rw [step_triggered, ht, Bool.true_or]
    rw [Shutdown.receipts]
    split
    · next hx =>
      subst hx
      have hlate : Late k (s.step (.receive k)) := h.receive_late ht
      rw [h.receive_triggered ht, hlate.receipts (step_sound hs.toSound _) hl.2,
        List.count_cons_self, dueReceipts]
    · next hx =>
      have he : Early k (s.step x) := h.step (Ne.symm hl.1) fun e => absurd e hx
      rw [ih he (step_attended hs x) hstep hl.2, List.count_cons_of_ne hx]

lemma logs_untriggered (s : Shutdown) (hx : .trigger ∉ xs) : logs s xs = [] := by
  induction xs generalizing s with
  | nil => rfl
  | cons x xs ih =>
    rw [List.mem_cons, not_or] at hx
    rw [logs, ih _ hx.2, if_neg (Ne.symm hx.1), List.append_nil]

lemma logs_triggered (ht : s.triggered = true) (xs : List Step) : logs s xs = [] := by
  induction xs generalizing s with
  | nil => rfl
  | cons x xs ih =>
    have hstep : (s.step x).triggered = true := by rw [step_triggered, ht, Bool.true_or]
    rw [logs, ih hstep, trigger_triggered ht, ite_self, List.append_nil]

structure Delivery (steps : List Step) : Prop where
  triggered : (after steps).triggered = decide (.trigger ∈ steps)
  receivers : (after steps).receivers = (roster steps).live
  answers : ∀ k, (roster steps).Live k →
    ((after steps).receive k).1 = .ok ∨ ((after steps).receive k).1 = .empty
  atMostOnce : ∀ k, (receipts k new steps).count .ok ≤ 1
  notBefore : .trigger ∉ steps → logs new steps = [] ∧ ∀ k, .ok ∉ receipts k new steps
  fired : ∀ before rest, steps = before ++ .trigger :: rest → .trigger ∉ before →
    logs new steps = [triggeredEvent (roster before).live] ∧
    ∀ k, (roster before).Live k → .leave k ∉ rest → .ok ∉ receipts k new before ∧
      receipts k new steps = receipts k new before ++ dueReceipts (rest.count (.receive k))
  again : .trigger ∈ steps → (after steps).trigger = (after steps, [])

/-- Every run delivers the signal at most once, and to those who are there when it is fired. -/
theorem delivered_once (steps : List Step) : Delivery steps where
  triggered := after_triggered steps
  receivers := after_receivers steps
  answers k hk := by
    rcases (after_attended steps).receive ((live_iff steps k).mp hk) with ⟨hr, -⟩ | hr
    · exact .inl hr
    · exact .inr (by rw [hr])
  atMostOnce k := (after_attended []).count_receipts_le k steps
  notBefore hn :=
    ⟨logs_untriggered new hn, fun k => (after_attended []).receipts_untriggered rfl hn⟩
  fired := by
    rintro before rest rfl hb
    have ha := after_attended before
    have ht : (after before).triggered = false := by rw [after_triggered, decide_eq_false hb]
    have hf : ((after before).step .trigger).triggered = true := by rw [step_triggered]; simp
    have hrun : (new.run before).step .trigger = (after before).step .trigger := rfl
    refine ⟨?_, fun k hk hl => ⟨(after_attended []).receipts_untriggered rfl hb, ?_⟩⟩
    · have he : (new.run before).trigger.2 = [triggeredEvent (after before).receivers] := by
        simp [← after.eq_1, trigger, ht]
      rw [logs_append, logs_untriggered new hb, logs, hrun, logs_triggered hf, if_pos rfl, he,
        after_receivers]
      rfl
    · have hlate : ¬ Late k (after before) := fun h => by simp [h.triggered] at ht
      have he : Early k ((after before).step .trigger) :=
        ((ha.each k ((live_iff before k).mp hk)).resolve_right hlate).trigger
      rw [receipts_append, Shutdown.receipts, if_neg (by simp), hrun,
        he.receipts (step_attended ha .trigger) hf hl]
  again hn := trigger_triggered (by rw [after_triggered, decide_eq_true hn])

end RpcServer.Shutdown
