import Mathlib.Tactic.Common
import RpcServer.Shutdown

/-! Runs of a shutdown and of those who subscribe to it. The signal reaches everyone who has
subscribed by the time that it is fired, and nobody else: who comes later waits for ever. -/

namespace RpcServer.Shutdown

inductive Step where
  | subscribe
  | trigger
  | leave (k : ℕ)
  | receive (k : ℕ)
deriving DecidableEq

def step (s : Shutdown) : Step → Shutdown
  | .subscribe => s.subscribe
  | .trigger => s.trigger.1
  | .leave k => s.leave k
  | .receive k => (s.receive k).2

def run (s : Shutdown) (steps : List Step) : Shutdown := steps.foldl step s

def after (steps : List Step) : Shutdown := new.run steps

variable {s t : Shutdown} {k : ℕ} {x : Step} {xs : List Step}

lemma run_append (s : Shutdown) (xs ys : List Step) : s.run (xs ++ ys) = (s.run xs).run ys :=
  List.foldl_append

@[simp] lemma run_cons (s : Shutdown) (x : Step) (xs : List Step) :
    s.run (x :: xs) = (s.step x).run xs := rfl

lemma after_subscribe (before rest : List Step) :
    after (before ++ .subscribe :: rest) = (after before).subscribe.run rest :=
  run_append new before (.subscribe :: rest)

structure Unnoticed (k : ℕ) (s t : Shutdown) : Prop where
  triggered : t.triggered = s.triggered
  sent : t.channel.sent = s.channel.sent
  isOpen : t.channel.isOpen = s.channel.isOpen
  cursor : t.channel.cursors[k]? = s.channel.cursors[k]?

lemma subscribe_unnoticed (hk : k < s.channel.cursors.length) : Unnoticed k s s.subscribe :=
  ⟨rfl, rfl, rfl, List.getElem?_append_left hk⟩

lemma leave_unnoticed {j : ℕ} (h : j ≠ k) (s : Shutdown) : Unnoticed k s (s.leave j) :=
  ⟨rfl, rfl, rfl, List.getElem?_set_ne h⟩

lemma receive_unnoticed {j : ℕ} (h : j ≠ k) (s : Shutdown) : Unnoticed k s (s.receive j).2 := by
  simp only [receive, Channel.receive]
  repeat' split
  all_goals exact ⟨rfl, rfl, rfl, by simp [List.getElem?_set_ne h]⟩

structure Sound (s : Shutdown) : Prop where
  isOpen : s.channel.isOpen = true
  unsent : s.triggered = false → s.channel.sent = 0

lemma step_sound (h : s.Sound) (x : Step) : (s.step x).Sound := by
  cases x with
  | subscribe => exact ⟨h.isOpen, h.unsent⟩
  | leave k => exact ⟨h.isOpen, h.unsent⟩
  | receive k =>
    -- what a receiver does is seen by itself alone
    obtain ⟨ht, hs, ho, -⟩ := receive_unnoticed (Nat.ne_of_lt k.lt_succ_self) s
    exact ⟨ho.trans h.isOpen, fun hf => hs.trans (h.unsent (ht.symm.trans hf))⟩
  | trigger =>
    simp only [step, trigger]
    split
    · exact h
    · refine ⟨?_, fun hf => Bool.noConfusion hf⟩
      simp only [Channel.send]
      split <;> exact h.isOpen

lemma after_sound (steps : List Step) : (after steps).Sound := by
  have hrun : ∀ {s : Shutdown}, s.Sound → (s.run steps).Sound := by
    induction steps with
    | nil => exact fun h => h
    | cons x xs ih => exact fun h => ih (step_sound h x)
  exact hrun ⟨rfl, fun _ => rfl⟩

lemma step_triggered (s : Shutdown) (x : Step) :
    (s.step x).triggered = (s.triggered || x = .trigger) := by
  cases x with
  | subscribe => simp [step, subscribe]
  | leave k => simp [step, leave]
  | receive k => simp [step, receive]
  | trigger =>
    simp only [step, trigger]
    split <;> simp_all

lemma run_triggered (s : Shutdown) (xs : List Step) :
    (s.run xs).triggered = (s.triggered || .trigger ∈ xs) := by
  induction xs generalizing s with
  | nil => simp [run]
  | cons x xs ih =>
    rw [run_cons, ih, step_triggered]
    simp [Bool.or_assoc, eq_comm]

lemma step_subscribers (s : Shutdown) (x : Step) :
    (s.step x).channel.cursors.length =
      s.channel.cursors.length + if x = .subscribe then 1 else 0 := by
  cases x with
  | subscribe => simp [step, subscribe, Channel.subscribe]
  | leave k => simp [step, leave, Channel.leave]
  | receive k =>
    simp only [step, receive, Channel.receive]
    repeat' split
    all_goals simp_all
  | trigger =>
    simp only [step, trigger, Channel.send]
    repeat' split
    all_goals simp_all

lemma run_subscribers (s : Shutdown) (xs : List Step) :
    (s.run xs).channel.cursors.length = s.channel.cursors.length + xs.count .subscribe := by
  induction xs generalizing s with
  | nil => rfl
  | cons x xs ih =>
    rw [run_cons, ih, step_subscribers, List.count_cons]
    simp only [beq_iff_eq]
    omega

/-- A subscription that has heard nothing, and will be due the signal when it is fired. -/
structure Early (k : ℕ) (s : Shutdown) : Prop where
  cursor : s.channel.cursors[k]? = some (some 0)
  sent : s.channel.sent = if s.triggered then 1 else 0

/-- A subscription that has nothing to hear any more. -/
structure Late (k : ℕ) (s : Shutdown) : Prop where
  triggered : s.triggered = true
  cursor : s.channel.cursors[k]? = some (some s.channel.sent)

lemma Early.congr (h : Early k s) (hu : Unnoticed k s t) : Early k t :=
  ⟨hu.cursor.trans h.cursor, by rw [hu.sent, hu.triggered, h.sent]⟩

lemma Late.congr (h : Late k s) (hu : Unnoticed k s t) : Late k t :=
  ⟨hu.triggered.trans h.triggered, by rw [hu.sent, hu.cursor, h.cursor]⟩

lemma lt_subscribers {c : ℕ} (h : s.channel.cursors[k]? = some (some c)) :
    k < s.channel.cursors.length := (List.getElem?_eq_some_iff.mp h).1

lemma Early.receive_triggered (h : Early k s) (ht : s.triggered = true) :
    (s.receive k).1 = .ok := by
  have hs : s.channel.sent = 1 := by rw [h.sent, ht]; rfl
  simp [receive, Channel.receive, h.cursor, hs]

lemma Early.receive_untriggered (h : Early k s) (ht : s.triggered = false) :
    (s.receive k).2 = s := by
  have hs : s.channel.sent = 0 := by rw [h.sent, ht]; rfl
  simp [receive, Channel.receive, h.cursor, hs]

lemma Late.receive (h : Late k s) :
    s.receive k = (if s.channel.isOpen then .empty else .closed, s) := by
  simp [Shutdown.receive, Channel.receive, h.cursor]

lemma Early.trigger (h : Early k s) : Early k s.trigger.1 := by
  cases ht : s.triggered with
  | true =>
    rw [trigger_triggered ht]
    exact h
  | false =>
    have hr : s.channel.receivers ≠ 0 := by
      have hm : some 0 ∈ s.channel.cursors := List.mem_of_getElem? h.cursor
      have hf : some 0 ∈ s.channel.cursors.filter Option.isSome := by simp [hm]
      exact Nat.ne_of_gt (List.length_pos_of_mem hf)
    have hs : s.channel.sent = 0 := by rw [h.sent, ht]; rfl
    simp only [Shutdown.trigger, ht, Bool.false_eq_true, ↓reduceIte, Channel.send, hr]
    exact ⟨h.cursor, by simp [hs]⟩

lemma Early.step (h : Early k s) (hl : x ≠ .leave k)
    (hr : x = .receive k → (s.receive k).1 ≠ .ok) : Early k (s.step x) := by
  cases x with
  | subscribe => exact h.congr (subscribe_unnoticed (lt_subscribers h.cursor))
  | trigger => exact h.trigger
  | leave j => exact h.congr (leave_unnoticed (fun e => hl (congrArg _ e)) s)
  | receive j =>
    by_cases hj : j = k
    · subst hj
      cases ht : s.triggered with
      | true => exact absurd (h.receive_triggered ht) (hr rfl)
      | false =>
        have hs : s.step (.receive j) = s := h.receive_untriggered ht
        rw [hs]
        exact h
    · exact h.congr (receive_unnoticed hj s)

lemma Late.step (h : Late k s) (hl : x ≠ .leave k) : Late k (s.step x) := by
  cases x with
  | subscribe => exact h.congr (subscribe_unnoticed (lt_subscribers h.cursor))
  | trigger =>
    have hs : s.step .trigger = s := by rw [Shutdown.step, trigger_triggered h.triggered]
    rw [hs]
    exact h
  | leave j => exact h.congr (leave_unnoticed (fun e => hl (congrArg _ e)) s)
  | receive j =>
    by_cases hj : j = k
    · subst hj
      have hs : s.step (.receive j) = s := by rw [Shutdown.step, h.receive]
      rw [hs]
      exact h
    · exact h.congr (receive_unnoticed hj s)

lemma Early.run (h : Early k s) (hl : .leave k ∉ xs)
    (hr : ∀ p q, xs = p ++ .receive k :: q → ((s.run p).receive k).1 ≠ .ok) :
    Early k (s.run xs) := by
  induction xs generalizing s with
  | nil => exact h
  | cons x xs ih =>
    rw [List.mem_cons, not_or] at hl
    have hx : Early k (s.step x) :=
      h.step (Ne.symm hl.1) fun e => hr [] xs (by rw [e]; rfl)
    refine ih hx hl.2 ?_
    intro p q hq
    exact hr (x :: p) q (by rw [hq]; rfl)

lemma Late.run (h : Late k s) (hl : .leave k ∉ xs) : Late k (s.run xs) := by
  induction xs generalizing s with
  | nil => exact h
  | cons x xs ih =>
    rw [List.mem_cons, not_or] at hl
    exact ih (h.step (Ne.symm hl.1)) hl.2

def Unheard (before rest : List Step) : Prop :=
  ∀ p q, rest = p ++ .receive (before.count .subscribe) :: q →
    ((after (before ++ .subscribe :: p)).receive (before.count .subscribe)).1 ≠ .ok

lemma subscribed_cursor (before : List Step) :
    (after before).subscribe.channel.cursors[before.count .subscribe]? =
      some (some (after before).channel.sent) := by
  have hn : (after before).channel.cursors.length = before.count .subscribe := by
    simpa [after, new, Channel.new] using run_subscribers new before
  simp [subscribe, Channel.subscribe, ← hn]

/-- Once the signal is fired, a subscription that is there and has not got it gets it the next time
that it asks if it was made before that, and never if it was made later. -/
theorem receive_of_triggered (before rest : List Step)
    (hl : .leave (before.count .subscribe) ∉ rest) (hu : Unheard before rest)
    (ht : (after (before ++ .subscribe :: rest)).triggered = true) :
    ((after (before ++ .subscribe :: rest)).receive (before.count .subscribe)).1 =
      if .trigger ∈ before then .empty else .ok := by
  have hb : (after before).triggered = decide (.trigger ∈ before) := by
    simpa [after, new] using run_triggered new before
  have hc := subscribed_cursor before
  by_cases hm : .trigger ∈ before
  · have h : Late (before.count .subscribe) (after before).subscribe :=
      ⟨hb.trans (decide_eq_true hm), hc⟩
    have hend := h.run hl
    rw [← after_subscribe] at hend
    rw [hend.receive, (after_sound _).isOpen, if_pos hm]
    rfl
  · have hf : (after before).triggered = false := hb.trans (decide_eq_false hm)
    have hs : (after before).channel.sent = 0 := (after_sound before).unsent hf
    have h : Early (before.count .subscribe) (after before).subscribe :=
      ⟨by rw [hc, hs], by simpa [subscribe, Channel.subscribe, hf] using hs⟩
    have hend := h.run hl fun p q hq => after_subscribe before p ▸ hu p q hq
    rw [← after_subscribe] at hend
    rw [hend.receive_triggered ht, if_neg hm]

theorem receive_of_triggered_second :
    let rest : List Step := [.receive 1, .trigger, .leave 0]
    .leave 1 ∉ rest ∧ Unheard [.subscribe] rest ∧
      (after (.subscribe :: .subscribe :: rest)).triggered = true ∧
      ((after (.subscribe :: .subscribe :: rest)).receive 1).1 = .ok := by
  intro rest
  have hl : .leave 1 ∉ rest := by decide
  have hu : Unheard [.subscribe] rest := by
    intro p q h
    match p, h with
    | [], _ => decide
    | [_], h | [_, _], h => simp [rest] at h
    | _ :: _ :: _ :: p, h => simp [rest] at h
  exact ⟨hl, hu, rfl, receive_of_triggered [.subscribe] rest hl hu rfl⟩

def KeepsSignal : Prop :=
  ∀ before rest : List Step, .leave (before.count .subscribe) ∉ rest → Unheard before rest →
    (after (before ++ .subscribe :: rest)).triggered = true →
    ((after (before ++ .subscribe :: rest)).receive (before.count .subscribe)).1 = .ok

theorem late_subscriber_misses : ¬ KeepsSignal := by
  intro h
  have hu : Unheard [.trigger] [] := by
    intro p q hq
    cases p <;> simp at hq
  exact absurd (h [.trigger] [] (by decide) hu rfl) (by decide)

end RpcServer.Shutdown
