import RpcServer.Proofs.ErrorSecrecy

/-! What a request leaves behind. Its call ends first; the effects of the answer follow, and no time
passes between them. -/

namespace RpcServer

open Metrics Reply

namespace World

def after (w : World) (es : List Effect) : World :=
  { w with
    trace := w.trace ++ es
    sink := (es.filterMap Effect.recording?).foldl Sink.record w.sink }

@[simp] lemma after_nil (w : World) : w.after [] = w := by
  simp [after]

lemma after_append (w : World) (es fs : List Effect) :
    w.after (es ++ fs) = (w.after es).after fs := by
  simp only [after, List.append_assoc, List.filterMap_append, List.foldl_append]

lemma logs_eq_after (events : List Log.Event) (w : World) :
    events.foldl log w = w.after (events.map .logged) := by
  induction events generalizing w with
  | nil => exact w.after_nil.symm
  | cons e events ih =>
    rw [List.foldl_cons, ih, List.map_cons, ← List.singleton_append, after_append]
    rfl

end World

lemma Exchange.Emits.world {x y : Exchange} {es : List Effect} (h : x.Emits es y)
    (hs : x.Still y) : y.world = x.world.after es := by
  obtain ⟨⟨epoch, now, issued, cancelled, due, sink, trace⟩, reply, span⟩ := y
  obtain ⟨h1, h2, -⟩ := h
  obtain ⟨k1, k2, k3, k4, k5⟩ := hs
  simp only at h1 h2 k1 k2 k3 k4 k5
  subst h1 h2 k1 k2 k3 k4 k5
  rfl

lemma Tracer.finish_world {tr : Tracer} {k : Call} (hk : k.identity.Legal) (h : Halt)
    (y : Exchange) : (tr.finish k h y).world = y.world.after (tr.closing k y h) :=
  (finish_emits hk h y).world (finish_still k h y)

namespace Http.Dispatcher

/-- How the operation's call ends, under observation and before anything is encoded; none if there
is no call. -/
def ended? (d : Dispatcher) (limit : Instant) (route : Route) (r : Request) (w : World) :
    Option (Halt × Exchange) :=
  match input route.shape d.maxBodyBytes r, w.issue.2.after? d.timeoutSecs with
  | .ok v, some deadline =>
    some (d.tracer.serve limit (Operation.service route.handler)
      (d.context route r w.issue.1 deadline) (.document v) (.start w.issue.2))
  | _, _ => none

def encodingEffects : Except Panic (Encoded × List Log.Event) → List Effect
  | .ok (_, events) => events.map .logged
  | .error _ => []

def failureEffects (d : Dispatcher) (r : Request) (e : ServiceError) : List Effect :=
  d.tracer.measured [.failure r.method r.uri.path serverError] ++
    encodingEffects (d.encoder.encodeError r.headers e)

def answerEffects (d : Dispatcher) (r : Request) : Halt → List Effect
  | .returned (.ok reply) => encodingEffects (d.encoder.encodeSuccess r.headers reply)
  | .returned (.error e) => d.failureEffects r e
  | .panicked _ | .abandoned => []

def encoding (d : Dispatcher) (r : Request) :
    Except ServiceError Payload → Except Panic (Encoded × List Log.Event)
  | .ok reply => d.encoder.encodeSuccess r.headers reply
  | .error e => d.encoder.encodeError r.headers e

variable {d : Dispatcher} {limit : Instant} {route : Route} {r : Request} {w : World}
  {h : Halt} {z : Exchange}

lemma answer_fst (d : Dispatcher) (r : Request) (result : Except ServiceError Payload)
    (x : Exchange) :
    (d.answer r (.returned result) x).1 =
      outcome (.withReply · x.reply.fields) ((d.encoding r result).map (·.1)) := by
  cases result with
  | ok reply => simp only [answer, encodeResult, settle_fst, encoding]
  | error e => simp only [answer, encodeResult, encodeError, settle_fst, encoding]

lemma settle_snd (e : Except Panic (Encoded × List Log.Event)) (w : World) :
    (settle e w).2 = w.after (encodingEffects e) := by
  cases e with
  | ok e => exact World.logs_eq_after e.2 w
  | error p => exact w.after_nil.symm

lemma encodeError_snd (d : Dispatcher) (r : Request) (e : ServiceError) (w : World) :
    (d.encodeError r e w).2 = w.after (d.failureEffects r e) := by
  rw [encodeError, settle_snd, failureEffects, World.after_append, Tracer.measured]
  split
  · rfl
  · rw [World.after_nil]

lemma reject_snd (d : Dispatcher) (r : Request) (e : ServiceError) (w : World) :
    (d.reject r e w).2 = w.after (d.failureEffects r e) := encodeError_snd d r e w

lemma answer_snd (d : Dispatcher) (r : Request) (h : Halt) (x : Exchange) :
    (d.answer r h x).2 = x.world.after (d.answerEffects r h) := by
  cases h with
  | returned result =>
    cases result with
    | ok reply => exact settle_snd (d.encoder.encodeSuccess r.headers reply) x.world
    | error e => exact encodeError_snd d r e x.world
  | panicked p | abandoned => exact x.world.after_nil.symm

lemma ended_of (he : d.ended? limit route r w = some (h, z)) :
    ∃ v deadline, input route.shape d.maxBodyBytes r = .ok v ∧
      w.issue.2.after? d.timeoutSecs = some deadline ∧
      d.tracer.serve limit (Operation.service route.handler)
        (d.context route r w.issue.1 deadline) (.document v) (.start w.issue.2) = (h, z) := by
  simp only [ended?] at he
  split at he
  · rename_i v deadline hv ha
    exact ⟨v, deadline, hv, ha, Option.some.inj he⟩
  · contradiction

lemma dispatch_of_ended (he : d.ended? limit route r w = some (h, z)) :
    d.dispatch limit route r w =
      ((d.answer r h z).1, (z.world.after (d.answerEffects r h)).cancel w.issue.1) := by
  obtain ⟨v, deadline, hv, ha, hs⟩ := ended_of he
  simp only [dispatch, hv, call, ha, hs, ← answer_snd]

lemma after?_eq_none {v : Json} (hv : input route.shape d.maxBodyBytes r = .ok v)
    (he : d.ended? limit route r w = none) : w.issue.2.after? d.timeoutSecs = none := by
  cases ha : w.issue.2.after? d.timeoutSecs with
  | none => rfl
  | some deadline => simp only [ended?, hv, ha, reduceCtorEq] at he

lemma dispatch_of_overflow {v : Json} (hv : input route.shape d.maxBodyBytes r = .ok v)
    (he : d.ended? limit route r w = none) :
    d.dispatch limit route r w = (.panicked .clockOverflow, w.issue.2.cancel w.issue.1) := by
  simp only [dispatch, hv, call, after?_eq_none hv he]

lemma ended_of_started {k : Tracer.Call} {p : Payload} {x : Exchange}
    (hs : d.started? route r w = some (k, p, x)) (limit : Instant) :
    let run := (Operation.service route.handler k.context p).run k.context limit x
    d.ended? limit route r w = some (run.1, d.tracer.finish k run.1 run.2) := by
  obtain ⟨v, deadline, hv, ha, hd, rfl, rfl, rfl⟩ := started_of hs
  have hserve : d.tracer.serve limit (Operation.service route.handler)
      (d.context route r w.issue.1 deadline) (.document v) (.start w.issue.2) = _ :=
    Tracer.serve_eq hd rfl
  simp only [ended?, hv, ha, hserve]
  rfl

end Http.Dispatcher

end RpcServer
