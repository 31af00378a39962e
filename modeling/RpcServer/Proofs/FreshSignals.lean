import RpcServer.Http.Service
import RpcServer.Proofs.Recovery

/-! The signals of calls. Each call has one of its own, which nothing has cancelled before the call is
made, so that a call with time left starts. -/

namespace RpcServer

namespace World

/-- The signal is cancelled, or will be. -/
def Spent (w : World) (s : Signal) : Prop := s ∈ w.cancelled ∨ ∃ t, (t, s) ∈ w.due

def Tidy (w : World) : Prop := ∀ s, w.Spent s → s.id < w.issued

structure Spends (s : Signal) (v w : World) : Prop where
  issued : w.issued = v.issued
  spent : ∀ t, w.Spent t → v.Spent t ∨ t = s

variable {s : Signal} {u v w : World}

lemma Spends.refl (s : Signal) (w : World) : Spends s w w := ⟨rfl, fun _ => .inl⟩

lemma Spends.trans (h : Spends s u v) (k : Spends s v w) : Spends s u w where
  issued := k.issued.trans h.issued
  spent t ht := by
    rcases k.spent t ht with hv | he
    · exact h.spent t hv
    · exact .inr he

lemma Spends.of_same (hi : w.issued = v.issued) (hc : w.cancelled = v.cancelled)
    (hd : w.due = v.due) : Spends s v w := by
  refine ⟨hi, fun t ht => .inl ?_⟩
  rwa [Spent, hc, hd] at ht

lemma cancel_spends (s : Signal) (w : World) : Spends s w (w.cancel s) := by
  refine ⟨rfl, ?_⟩
  rintro t (ht | ht)
  · rcases List.mem_cons.mp ht with he | ht
    · exact .inr he
    · exact .inl (.inl ht)
  · exact .inl (.inr ht)

lemma moveTo_spends (s : Signal) (w : World) (t : Instant) : Spends s w (w.moveTo t) := by
  simp only [moveTo]
  split
  · exact Spends.refl s w
  · refine ⟨rfl, ?_⟩
    rintro u (hu | ⟨d, hd⟩)
    · rcases List.mem_append.mp hu with hu | hu
      · obtain ⟨⟨d, u⟩, hd, rfl⟩ := List.mem_map.mp hu
        exact .inl (.inr ⟨d, (List.mem_filter.mp hd).1⟩)
      · exact .inl (.inl hu)
    · exact .inl (.inr ⟨d, (List.mem_filter.mp hd).1⟩)

lemma start_tidy (epoch : Nat) (sink : Metrics.Sink) : (start epoch sink).Tidy := by
  rintro s (hs | ⟨t, ht⟩)
  · exact absurd hs List.not_mem_nil
  · exact absurd ht List.not_mem_nil

lemma Tidy.spends (h : v.Tidy) (hs : s.id < v.issued) (k : Spends s v w) : w.Tidy := by
  intro t ht
  rw [k.issued]
  rcases k.spent t ht with hv | rfl
  · exact h t hv
  · exact hs

lemma Tidy.issue (h : w.Tidy) : w.issue.2.Tidy :=
  fun s hs => Nat.lt_succ_of_lt (h s hs)

lemma Tidy.issue_fresh (h : w.Tidy) : w.issue.2.isCancelled w.issue.1 = false := by
  simp only [isCancelled, List.contains_eq_mem, decide_eq_false_iff_not]
  intro hm
  exact absurd (h _ (.inl hm)) (Nat.lt_irrefl w.issued)

lemma after?_eq_some {w : World} {n : Nat} {d : Instant} :
    w.after? n = some d ↔ w.epoch + w.now / 1000 + n ≤ lastSecond ∧ d = w.now + 1000 * n := by
  simp only [after?]
  split
  · rename_i h
    simp only [h, true_and, Option.some.injEq, eq_comm]
  · rename_i h
    simp only [h, false_and, reduceCtorEq]

lemma after?_eq_none_iff {w : World} {n : Nat} :
    w.after? n = none ↔ lastSecond < w.epoch + w.now / 1000 + n := by
  simp only [after?]
  split
  · rename_i h
    simp only [reduceCtorEq, Int.not_lt.mpr h]
  · rename_i h
    simp only [Int.not_le.mp h]

end World

open World

lemma Exchange.Still.spends {x y : Exchange} (h : x.Still y) (s : Signal) :
    Spends s x.world y.world := .of_same h.issued h.cancelled h.due

namespace Program

variable (c : Context) (limit : Instant)

lemma perform_spends (x : Exchange) (a : Action) :
    Spends c.signal x.world (perform c x a).world := by
  cases a with
  | write w => exact (x.write_still w).spends c.signal
  | log e => exact (x.log_still e).spends c.signal
  | cancel => exact cancel_spends c.signal x.world
  | invoke p => exact .of_same rfl rfl rfl

lemma run_spends (p : Program) (x : Exchange) :
    Spends c.signal x.world (p.run c limit x).2.world := by
  induction p generalizing x with
  | reply | fail | panic => exact Spends.refl c.signal x.world
  | act a next ih => exact (perform_spends c x a).trans (ih (perform c x a))
  | look next ih => exact ih (view c x) x
  | sleep ms next ih =>
    simp only [run]
    split
    · exact (moveTo_spends c.signal x.world _).trans
        (ih { x with world := x.world.moveTo (x.world.now + ms) })
    · exact moveTo_spends c.signal x.world limit
  | awaitDone next favoured ih =>
    obtain ⟨t, ht⟩ := x.world.awaitDone_moves c limit favoured
    have hw := moveTo_spends c.signal x.world t
    rw [← ht] at hw
    simp only [run]
    cases hd : x.world.awaitDone c limit favoured with
    | mk e w =>
      rw [hd] at hw
      cases e with
      | none => exact hw
      | some e => exact hw.trans (ih e { x with world := w })
  | hang => exact moveTo_spends c.signal x.world limit

end Program

namespace Tracer

lemma serve_spends (tr : Tracer) (limit : Instant) (inner : Context → Payload → Program)
    (c : Context) (request : Payload) (x : Exchange) :
    Spends c.signal x.world (tr.serve limit inner c request x).2.world := by
  cases hd : x.world.done? c with
  | some e =>
    rw [serve_done tr hd]
    exact Spends.refl c.signal x.world
  | none =>
    cases ht : c.transport with
    | none =>
      have hbare : ∃ start own, Bare limit inner c request x start own
          (tr.serve limit inner c request x).1 (tr.serve limit inner c request x).2 :=
        serve_bare hd ht
      obtain ⟨start, own, hb⟩ := hbare
      have hrun := Program.run_spends c limit (inner c request) start
      rw [hb.ran] at hrun
      exact (hb.still.spends c.signal).trans hrun
    | some t =>
      have hobs : ∃ start own y, tr.Observed limit inner c t request (Call.start c t x.world.now) x
          start own y (tr.serve limit inner c request x).1 (tr.serve limit inner c request x).2 :=
        serve_observed hd ht
      obtain ⟨start, own, y, ho⟩ := hobs
      have hrun := Program.run_spends (Call.start c t x.world.now).context limit
        (inner (Call.start c t x.world.now).context request) start
      rw [ho.ran, ho.signal] at hrun
      exact ((ho.stillBefore.spends c.signal).trans hrun).trans (ho.stillAfter.spends c.signal)

end Tracer

namespace Http

namespace Dispatcher

variable {d : Dispatcher} {limit : Instant} {route : Route} {r : Request} {w : World}

lemma dispatch_tidy (hw : w.Tidy) : (d.dispatch limit route r w).2.Tidy := by
  have hissued : w.issue.1.id < w.issue.2.issued := Nat.lt_succ_self w.issued
  cases hi : input route.shape d.maxBodyBytes r with
  | error e =>
    rw [d.dispatch_of_input_error hi, reject_snd]
    exact hw
  | ok v =>
    cases he : d.ended? limit route r w with
    | none =>
      rw [dispatch_of_overflow hi he]
      exact hw.issue.spends hissued (cancel_spends _ _)
    | some ended =>
      obtain ⟨h, z⟩ := ended
      obtain ⟨v, deadline, -, -, hs⟩ := ended_of he
      have hz := d.tracer.serve_spends limit (Operation.service route.handler)
        (d.context route r w.issue.1 deadline) (.document v) (.start w.issue.2)
      rw [hs] at hz
      have ha : Spends w.issue.1 z.world (z.world.after (d.answerEffects r h)) :=
        .of_same rfl rfl rfl
      rw [dispatch_of_ended he]
      exact hw.issue.spends hissued ((hz.trans ha).trans (cancel_spends w.issue.1 _))

lemma done?_context {deadline : Instant} (hw : w.Tidy) (hn : 0 < d.timeoutSecs)
    (ha : w.issue.2.after? d.timeoutSecs = some deadline) :
    w.issue.2.done? (d.context route r w.issue.1 deadline) = none := by
  have hf : w.issue.2.isCancelled (d.context route r w.issue.1 deadline).signal = false :=
    hw.issue_fresh
  have hd : (d.context route r w.issue.1 deadline).deadline = some deadline := rfl
  have hlate : ¬ deadline ≤ w.issue.2.now := by
    obtain ⟨-, rfl⟩ := after?_eq_some.mp ha
    exact Int.not_le.mpr (Int.lt_add_of_pos_right _ (by omega))
  simp only [done?, Context.done?, hf, hd, Bool.false_eq_true, ↓reduceIte, if_neg hlate]

end Dispatcher

namespace Service

variable (s : Service)

lemma respond_tidy {limit : Instant} {r : Request} {w : World} (hw : w.Tidy) :
    (s.respond limit r w).2.Tidy := by
  have hreport : ∀ reason message,
      (s.fallback.report reason message r.method r.uri.path w).Tidy := by
    intro reason message
    simp only [Fallback.report]
    split <;> exact hw
  cases hd : s.destination r.method r.uri.path with
  | nowhere | wrongMethod =>
    simp only [respond, answer, hd]
    exact hreport _ _
  | route route =>
    have hv : (s.dispatcher.dispatch limit route r w).2.Tidy := Dispatcher.dispatch_tidy hw
    simp only [respond, answer, hd]
    cases (s.dispatcher.dispatch limit route r w).1 <;> exact hv

def serveAll (w : World) (rs : List (Instant × Request)) : World :=
  rs.foldl (fun w r => (s.respond r.1 r.2 w).2) w

lemma serveAll_tidy (rs : List (Instant × Request)) {w : World} (hw : w.Tidy) :
    (s.serveAll w rs).Tidy := by
  induction rs generalizing w with
  | nil => exact hw
  | cons r rs ih => exact ih (s.respond_tidy hw)

end Service

end Http

end RpcServer
