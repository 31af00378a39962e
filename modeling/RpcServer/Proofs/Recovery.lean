import RpcServer.Proofs.Settlement

/-! Handlers that panic. The caller, the reply headers and the metrics see a failure with a fixed
error, and only the log says that there was a panic. -/

namespace RpcServer

namespace Program

lemma run_rescue (instead : Panic → Program) (c : Context) (limit : Instant) (p : Program)
    (x : Exchange) :
    (p.rescue instead).run c limit x =
      match p.run c limit x with
      | (.panicked q, y) => (instead q).run c limit y
      | ended => ended := by
  induction p generalizing x with
  | reply | fail | panic | hang => rfl
  | act a next ih => exact ih (perform c x a)
  | look next ih => exact ih (view c x) x
  | sleep ms next ih =>
    simp only [rescue, run]
    split
    · exact ih _
    · rfl
  | awaitDone next favoured ih =>
    simp only [rescue, run]
    split
    · exact ih _ _
    · rfl

end Program

def Handler.failing (h : Handler) : Handler := fun c v =>
  (h c v).rescue fun _ => .fail Operation.panicked

namespace Operation

def recovered : Halt × Exchange → Halt × Exchange
  | (.panicked p, y) => (.returned (.error panicked), y.log (panicEvent p))
  | ended => ended

def failed : Halt × Exchange → Halt × Exchange
  | (.panicked _, y) => (.returned (.error panicked), y)
  | ended => ended

variable (h : Handler) (c : Context) (v : Json) (limit : Instant) (x : Exchange)

def called : Exchange := Program.perform c x (.invoke (.document v))

lemma service_run :
    (service h c (.document v)).run c limit x =
      recovered ((h c v).run c limit (called c v x)) := by
  have hr := Program.run_rescue onPanic c limit (h c v) (called c v x)
  rw [recovered.eq_def]
  exact hr

lemma failing_run :
    (h.failing c v).run c limit x = failed ((h c v).run c limit x) := by
  rw [failed.eq_def]
  exact Program.run_rescue (fun _ => .fail panicked) c limit (h c v) x

lemma recovered_failed (e : Halt × Exchange) : recovered (failed e) = failed e := by
  obtain ⟨h, y⟩ := e
  cases h <;> rfl

lemma failing_service_run :
    (service h.failing c (.document v)).run c limit x =
      failed ((h c v).run c limit (called c v x)) := by
  rw [service_run, failing_run, recovered_failed]

lemma recovered_not_panicked (e : Halt × Exchange) (p : Panic) :
    (recovered e).1 ≠ .panicked p := by
  obtain ⟨h, y⟩ := e
  cases h <;> simp [recovered]

end Operation

structure World.OneMore (e : Log.Event) (v w : World) : Prop where
  trace : ∃ before after, v.trace = before ++ .logged e :: after ∧ w.trace = before ++ after
  sink : v.sink = w.sink
  elsewhere : { v with trace := w.trace } = w

lemma World.oneMore_after (w : World) (e : Log.Event) (es : List Effect) (s : Signal) :
    OneMore e (((w.after [.logged e]).after es).cancel s) ((w.after es).cancel s) where
  trace := ⟨w.trace, es, by simp [after, cancel], rfl⟩
  sink := rfl
  elsewhere := rfl

lemma Tracer.finish_logged (tr : Tracer) {k : Call} (hk : k.identity.Legal) (h : Halt)
    (y : Exchange) (e : Log.Event) :
    (tr.finish k h (y.log e)).reply = (tr.finish k h y).reply ∧
      (tr.finish k h (y.log e)).world =
        (y.world.after [.logged { e with span := y.span }]).after (tr.closing k y h) := by
  have hreply : (tr.finish k h (y.log e)).reply =
      ((tr.closing k y h).filterMap Effect.write?).foldl ReplyHeaders.write y.reply :=
    (finish_emits hk h (y.log e)).reply
  exact ⟨hreply.trans (finish_emits hk h y).reply.symm, finish_world hk h (y.log e)⟩

namespace Http

def Route.failing (route : Route) : Route := { route with handler := route.handler.failing }

namespace Dispatcher

def handled? (d : Dispatcher) (limit : Instant) (route : Route) (r : Request) (w : World) :
    Option (Halt × Exchange) :=
  match d.started? route r w with
  | some (k, .document v, x) =>
    some ((route.handler k.context v).run k.context limit (Operation.called k.context v x))
  | _ => none

variable {d : Dispatcher} {limit : Instant} {route : Route} {r : Request} {w : World}
  {e : Halt × Exchange}

lemma handled_of (he : d.handled? limit route r w = some e) :
    ∃ k v x, d.started? route r w = some (k, .document v, x) ∧
      (route.handler k.context v).run k.context limit (Operation.called k.context v x) = e := by
  simp only [handled?] at he
  split at he
  · rename_i k v x hs
    exact ⟨k, v, x, hs, Option.some.inj he⟩
  · contradiction

lemma started_failing (d : Dispatcher) (route : Route) (r : Request) (w : World) :
    d.started? route.failing r w = d.started? route r w := rfl

lemma ended_of_handled {k : Tracer.Call} {v : Json} {x : Exchange}
    (hs : d.started? route r w = some (k, .document v, x))
    (hr : (route.handler k.context v).run k.context limit (Operation.called k.context v x) = e) :
    d.ended? limit route r w =
        some ((Operation.recovered e).1, d.tracer.finish k (Operation.recovered e).1
          (Operation.recovered e).2) ∧
      d.ended? limit route.failing r w =
        some ((Operation.failed e).1, d.tracer.finish k (Operation.failed e).1
          (Operation.failed e).2) := by
  have h₁ := ended_of_started hs limit
  have h₂ := ended_of_started ((started_failing d route r w).trans hs) limit
  rw [Operation.service_run, hr] at h₁
  rw [Route.failing, Operation.failing_service_run, hr] at h₂
  exact ⟨h₁, h₂⟩

lemma not_started_of (h : d.handled? limit route r w = none) : d.started? route r w = none := by
  simp only [handled?] at h
  split at h
  · contradiction
  · rename_i hn
    cases hs : d.started? route r w with
    | none => rfl
    | some start =>
      obtain ⟨k, p, x⟩ := start
      obtain ⟨v, deadline, -, -, -, -, rfl, -⟩ := started_of hs
      exact absurd hs (hn k v x)

def refused? (d : Dispatcher) (route : Route) (r : Request) (w : World) : Option ServiceError :=
  match input route.shape d.maxBodyBytes r, w.issue.2.after? d.timeoutSecs with
  | .ok _, some deadline => w.issue.2.done? (d.context route r w.issue.1 deadline)
  | _, _ => none

lemma ended_of_not_started (h : d.started? route r w = none) :
    d.ended? limit route r w = (d.refused? route r w).map fun e =>
      (.returned (.error e), .start w.issue.2) := by
  cases hv : input route.shape d.maxBodyBytes r with
  | error e => simp only [ended?, refused?, hv, Option.map_none]
  | ok v =>
    cases ha : w.issue.2.after? d.timeoutSecs with
    | none => simp only [ended?, refused?, hv, ha, Option.map_none]
    | some deadline =>
      cases hd : w.issue.2.done? (d.context route r w.issue.1 deadline) with
      | none =>
        rw [started?_eq hv ha hd] at h
        contradiction
      | some e =>
        simp only [ended?, refused?, hv, ha, hd, Option.map_some, Option.some.injEq]
        exact Tracer.serve_done d.tracer hd limit _ _

lemma ended_not_panicked (p : Panic) (z : Exchange) :
    d.ended? limit route r w ≠ some (.panicked p, z) := by
  intro he
  cases hh : d.handled? limit route r w with
  | none =>
    rw [ended_of_not_started (not_started_of hh)] at he
    cases hr : d.refused? route r w <;> simp [hr] at he
  | some ended =>
    obtain ⟨k, v, x, hs, hr⟩ := handled_of hh
    obtain ⟨h₁, -⟩ := ended_of_handled hs hr
    rw [h₁, Option.some.injEq, Prod.mk.injEq] at he
    exact Operation.recovered_not_panicked ended p he.1

lemma dispatch_failing_of_ended
    (he : d.ended? limit route.failing r w = d.ended? limit route r w) :
    d.dispatch limit route.failing r w = d.dispatch limit route r w := by
  cases hi : input route.shape d.maxBodyBytes r with
  | error e =>
    have hi' : input route.failing.shape d.maxBodyBytes r = .error e := hi
    rw [d.dispatch_of_input_error hi, d.dispatch_of_input_error hi']
  | ok v =>
    have hi' : input route.failing.shape d.maxBodyBytes r = .ok v := hi
    cases hn : d.ended? limit route r w with
    | none => rw [dispatch_of_overflow hi hn, dispatch_of_overflow hi' (he.trans hn)]
    | some ended => rw [dispatch_of_ended hn, dispatch_of_ended (he.trans hn)]

lemma outcome_eq_panicked {f : Reply.Encoded → Response} {e : Except Panic Reply.Encoded}
    {q : Panic} : outcome f e = .panicked q ↔ e = .error q := by
  cases e <;> simp [outcome]

lemma fst_eq_error {e : Except Panic (Reply.Encoded × List Log.Event)} {q : Panic} :
    e.map (·.1) = .error q ↔ e = .error q := by
  cases e <;> simp [Except.map]

/-- A handler that has ended in `y` with the panic `p`, against one that fails there: response,
reply headers and metrics are the same, and the log has one more event. A panic that leaves the
dispatch is one of the encoder. -/
structure Contained (d : Dispatcher) (limit : Instant) (route : Route) (r : Request) (w : World)
    (p : Panic) (y : Exchange) : Prop where
  response : (d.dispatch limit route r w).1 = (d.dispatch limit route.failing r w).1
  reply : ∃ z z' : Exchange,
    d.ended? limit route r w = some (.returned (.error Operation.panicked), z) ∧
    d.ended? limit route.failing r w = some (.returned (.error Operation.panicked), z') ∧
    z.reply = z'.reply
  world : World.OneMore { Operation.panicEvent p with span := y.span }
    (d.dispatch limit route r w).2 (d.dispatch limit route.failing r w).2
  escape : ∀ q, (d.dispatch limit route r w).1 = .panicked q ↔
    d.encoder.encodeError r.headers Operation.panicked = .error q

lemma contained_of_handled {p : Panic} {y : Exchange}
    (hp : d.handled? limit route r w = some (.panicked p, y)) : d.Contained limit route r w p y := by
  obtain ⟨k, v, x, hs, hr⟩ := handled_of hp
  obtain ⟨h₁, h₂⟩ := ended_of_handled hs hr
  have hk : k.identity.Legal := started_identity hs ▸ Trace.Identity.ofSpan_legal _
  obtain ⟨hreply, hworld⟩ := Tracer.finish_logged d.tracer hk
    (.returned (.error Operation.panicked)) y (Operation.panicEvent p)
  simp only [Operation.recovered] at h₁
  simp only [Operation.failed] at h₂
  have hd₁ := dispatch_of_ended h₁
  have hd₂ := dispatch_of_ended h₂
  refine ⟨?_, ⟨_, _, h₁, h₂, hreply⟩, ?_, ?_⟩
  · rw [hd₁, hd₂, answer_fst, answer_fst, hreply]
  · -- what follows the panic's event is the same on both sides
    rw [hd₁, hd₂, hworld, Tracer.finish_world hk,
      ← World.after_append _ (d.tracer.closing _ _ _),
      ← World.after_append _ (d.tracer.closing _ _ _)]
    exact World.oneMore_after _ _ _ _
  · intro q
    rw [hd₁, answer_fst, outcome_eq_panicked, fst_eq_error, encoding]

lemma dispatch_failing_of_not_panicked
    (hn : ∀ p y, d.handled? limit route r w ≠ some (.panicked p, y)) :
    d.dispatch limit route.failing r w = d.dispatch limit route r w := by
  apply dispatch_failing_of_ended
  cases hh : d.handled? limit route r w with
  | none =>
    have hs := not_started_of hh
    rw [ended_of_not_started hs, ended_of_not_started ((started_failing d route r w).trans hs)]
    rfl
  | some ended =>
    obtain ⟨k, v, x, hs, hr⟩ := handled_of hh
    obtain ⟨h₁, h₂⟩ := ended_of_handled hs hr
    rw [h₁, h₂]
    obtain ⟨h, y⟩ := ended
    cases h with
    | panicked p => exact absurd hh (hn p y)
    | returned | abandoned => rfl

/-- A handler that panics is for the caller one that fails, and one that does not panic stays as it
is. No call ends in a panic. -/
theorem panic_is_failure (d : Dispatcher) (limit : Instant) (route : Route) (r : Request)
    (w : World) :
    (∀ p y, d.handled? limit route r w = some (.panicked p, y) →
      d.Contained limit route r w p y) ∧
    ((∀ p y, d.handled? limit route r w ≠ some (.panicked p, y)) →
      d.dispatch limit route.failing r w = d.dispatch limit route r w) ∧
    ∀ p z, d.ended? limit route r w ≠ some (.panicked p, z) :=
  ⟨fun _ _ hp => contained_of_handled hp, dispatch_failing_of_not_panicked, ended_not_panicked⟩

theorem panic_is_failure_poisoned :
    let d : Dispatcher := ⟨⟨.new, ⟨none, 500⟩, 0, "ok"⟩, {}, "http://localhost", 5, 0⟩
    let w := World.start 0 .discard
    let r : Request := ⟨"POST", ⟨"/hello", none⟩, .empty, []⟩
    let greet : Route := ⟨"/Greeter/Hello", .any, fun _ v => .reply (.document v)⟩
    let burst : Route := ⟨"/Greeter/Hello", .any, fun _ _ =>
      .act (.write (.set "x-attempt" "1")) (.act (.write .poison) (.panic (.text "burst")))⟩
    (∃ y, (d.handled? 9 burst r w = some (.panicked (.text "burst"), y) ∧
      y.reply.poisoned = true) ∧ d.Contained 9 burst r w (.text "burst") y) ∧
    (∀ p y, d.handled? 9 greet r w ≠ some (.panicked p, y)) ∧
      d.dispatch 9 greet.failing r w = d.dispatch 9 greet r w := by
  intro d w r greet burst
  have ht : (World.start 0 .discard).issue.2.after? 5 = some 5000 := rfl
  have hg : input greet.shape 0 r = .ok (.object []) := rfl
  have hb : input burst.shape 0 r = .ok (.object []) := rfl
  have hq : ∀ p y, d.handled? 9 greet r w ≠ some (.panicked p, y) := by
    intro p y h
    rw [handled?, started?_eq hg ht rfl] at h
    exact Halt.noConfusion (congrArg Prod.fst (Option.some.inj h))
  have hp : ∃ y, d.handled? 9 burst r w = some (.panicked (.text "burst"), y) ∧
      y.reply.poisoned = true := by
    rw [handled?, started?_eq hb ht rfl]
    exact ⟨_, rfl, rfl⟩
  obtain ⟨y, hp, hy⟩ := hp
  exact ⟨⟨y, ⟨hp, hy⟩, (panic_is_failure d 9 burst r w).1 (.text "burst") y hp⟩, hq,
    (panic_is_failure d 9 greet r w).2.1 hq⟩

end Dispatcher

end Http

end RpcServer
