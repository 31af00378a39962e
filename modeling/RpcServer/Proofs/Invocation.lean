import RpcServer.Proofs.FreshSignals

/-! Requests that reach their handler. It is called once, and what it ends with is what the caller is
answered with. -/

namespace RpcServer

def Halt.result? : Halt → Option (Except ServiceError Payload)
  | .returned result => some result
  | .panicked _ => some (.error Operation.panicked)
  | .abandoned => none

namespace Operation

def recoveryEffects (y : Exchange) : Halt → List Effect
  | .panicked p => [.logged { panicEvent p with span := y.span }]
  | .returned _ | .abandoned => []

lemma recovered_world (h : Halt) (y : Exchange) :
    (recovered (h, y)).2.world = y.world.after (recoveryEffects y h) := by
  cases h with
  | panicked p => rfl
  | returned | abandoned => exact y.world.after_nil.symm

lemma recoveryEffects_invocations (y : Exchange) (h : Halt) :
    (recoveryEffects y h).filterMap Effect.invocation? = [] := by
  cases h <;> rfl

lemma recovered_of_result {h : Halt} {result : Except ServiceError Payload}
    (hr : h.result? = some result) (y : Exchange) :
    (recovered (h, y)).1 = .returned result := by
  cases h with
  | returned _ | panicked _ => exact congrArg Halt.returned (Option.some.inj hr)
  | abandoned => contradiction

end Operation

namespace Http.Dispatcher

/-- A dispatch that calls the handler once, on `v` in the context `c`. The handler begins in `start`
and adds its own effects on its way to `y`; what it ends with is encoded. -/
structure Invokes (d : Dispatcher) (limit : Instant) (route : Route) (r : Request) (w : World)
    (c : Context) (v : Json) (start : Exchange) (own : List Effect) (h : Halt) (y : Exchange) :
    Prop where
  ran : (route.handler c v).run c limit start = (h, y)
  handled : start.Handled c own y
  once : ∃ before after, (d.dispatch limit route r w).2.trace =
    w.trace ++ before ++ .invoked c (.document v) :: own ++ after ∧
    (before ++ after).filterMap Effect.invocation? = []
  answered : ∀ result, h.result? = some result → ∃ left, (d.dispatch limit route r w).1 =
    outcome (.withReply · left) ((d.encoding r result).map (·.1))
  abandoned : h = .abandoned → (d.dispatch limit route r w).1 = .abandoned

lemma encodingEffects_filterMap {α : Type} {f : Effect → Option α} (hf : ∀ e, f (.logged e) = none)
    (e : Except Panic (Reply.Encoded × List Log.Event)) :
    (encodingEffects e).filterMap f = [] := by
  cases e with
  | ok e => simp [encodingEffects, hf]
  | error p => rfl

lemma failureEffects_invocations (d : Dispatcher) (r : Request) (e : ServiceError) :
    (d.failureEffects r e).filterMap Effect.invocation? = [] := by
  rw [failureEffects, List.filterMap_append, Tracer.measured_invocations,
    encodingEffects_filterMap fun _ => rfl, List.nil_append]

lemma answerEffects_invocations (d : Dispatcher) (r : Request) (h : Halt) :
    (d.answerEffects r h).filterMap Effect.invocation? = [] := by
  cases h with
  | returned result =>
    cases result with
    | ok reply => exact encodingEffects_filterMap (fun _ => rfl) _
    | error e => exact d.failureEffects_invocations r e
  | panicked | abandoned => rfl

variable {d : Dispatcher} {limit : Instant} {route : Route} {r : Request} {w : World}
  {k : Tracer.Call} {v : Json} {x y : Exchange} {h : Halt}

lemma started_trace {p : Payload} (hs : d.started? route r w = some (k, p, x)) :
    x.world.trace = w.trace ++ d.tracer.opening k p none := by
  obtain ⟨v, deadline, -, -, -, -, -, hx⟩ := started_of hs
  rw [hx, (Tracer.enter_emits k p (.start w.issue.2)).trace]
  rfl

lemma invokes_of_run (hs : d.started? route r w = some (k, .document v, x))
    (hr : (route.handler k.context v).run k.context limit (Operation.called k.context v x) =
      (h, y)) :
    ∃ own, d.Invokes limit route r w k.context v (Operation.called k.context v x) own h y := by
  obtain ⟨own, ho⟩ := Program.run_handled k.context limit (route.handler k.context v)
    (Operation.called k.context v x)
  rw [hr] at ho
  have hk : k.identity.Legal := started_identity hs ▸ Trace.Identity.ofSpan_legal _
  have hd := dispatch_of_ended (ended_of_handled hs hr).1
  refine ⟨own, hr, ho, ?_, ?_, ?_⟩
  -- what follows the handler's own effects: the report of a panic, the tracer's end, the encoding
  · let z := (Operation.recovered (h, y)).2
    let halt := (Operation.recovered (h, y)).1
    have hy : y.world.trace =
        x.world.trace ++ [.invoked k.context (.document v)] ++ own := ho.emits.trace
    have hz : z.world.trace = y.world.trace ++ Operation.recoveryEffects y h := by
      rw [Operation.recovered_world]
      rfl
    have hf : (d.tracer.finish k halt z).world.trace =
        z.world.trace ++ d.tracer.closing k z halt := by
      rw [Tracer.finish_world hk]
      rfl
    refine ⟨d.tracer.opening k (.document v) none, Operation.recoveryEffects y h ++
      d.tracer.closing k z halt ++ d.answerEffects r halt, ?_, ?_⟩
    · have ht : (d.dispatch limit route r w).2.trace =
          (d.tracer.finish k halt z).world.trace ++ d.answerEffects r halt := by
        rw [hd]
        rfl
      rw [ht, hf, hz, hy, started_trace hs]
      simp only [List.append_assoc, List.cons_append, List.nil_append]
    · simp only [List.filterMap_append, Tracer.opening_invocations, Tracer.closing_invocations,
        Operation.recoveryEffects_invocations, answerEffects_invocations, List.append_nil]
  · intro result hres
    rw [hd, Operation.recovered_of_result hres, answer_fst]
    exact ⟨_, rfl⟩
  · rintro rfl
    rw [hd]
    rfl

lemma dispatch_invokes (hs : d.started? route r w = some (k, .document v, x))
    (limit : Instant) : ∃ start own h y, d.Invokes limit route r w k.context v start own h y := by
  have hr : (route.handler k.context v).run k.context limit (Operation.called k.context v x) =
    (_, _) := rfl
  obtain ⟨own, hi⟩ := invokes_of_run hs hr
  exact ⟨_, own, _, _, hi⟩

lemma handled_invokes (hh : d.handled? limit route r w = some (h, y)) :
    ∃ c v start own, d.Invokes limit route r w c v start own h y := by
  obtain ⟨k, v, x, hs, hr⟩ := handled_of hh
  obtain ⟨own, hi⟩ := invokes_of_run hs hr
  exact ⟨k.context, v, _, own, hi⟩

lemma started_of_input {deadline : Instant} (hw : w.Tidy) (hn : 0 < d.timeoutSecs)
    (hv : input route.shape d.maxBodyBytes r = .ok v)
    (ha : w.issue.2.after? d.timeoutSecs = some deadline) :
    ∃ k x, d.started? route r w = some (k, .document v, x) ∧
      k.context.deadline = some deadline := by
  refine ⟨_, _, started?_eq hv ha (done?_context hw hn ha), ?_⟩
  exact (Trace.extract_keeps (d.context route r w.issue.1 deadline) r.headers).2.1

lemma invokes_in_time (hw : w.Tidy) (hn : 0 < d.timeoutSecs)
    (hle : w.epoch + w.now / 1000 + d.timeoutSecs ≤ World.lastSecond)
    (hv : input route.shape d.maxBodyBytes r = .ok v) (limit : Instant) :
    ∃ c start own h y, d.Invokes limit route r w c v start own h y ∧
      c.deadline = some (w.now + 1000 * d.timeoutSecs) := by
  have ha : w.issue.2.after? d.timeoutSecs = some (w.now + 1000 * d.timeoutSecs) :=
    World.after?_eq_some.mpr ⟨hle, rfl⟩
  obtain ⟨k, x, hs, hd⟩ := started_of_input hw hn hv ha
  obtain ⟨start, own, h, y, hi⟩ := dispatch_invokes hs limit
  exact ⟨k.context, start, own, h, y, hi, hd⟩

end Http.Dispatcher

end RpcServer
