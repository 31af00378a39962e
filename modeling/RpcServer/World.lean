import RpcServer.Call.Context
import RpcServer.Call.ReplyHeaders
import RpcServer.Log.Event
import RpcServer.Metrics.Sink
import RpcServer.Payload

/-! What calls share: the clock, the cancellation signals, the metrics, and the trace of everything
that was done, in order. -/

namespace RpcServer

inductive Effect where
  | logged (e : Log.Event)
  | recorded (r : Metrics.Recording)
  | wrote (w : HeaderWrite)
  | invoked (c : Context) (request : Payload)

namespace Effect

def event? : Effect → Option Log.Event
  | .logged e => some e
  | _ => none

def recording? : Effect → Option Metrics.Recording
  | .recorded r => some r
  | _ => none

def invocation? : Effect → Option (Context × Payload)
  | .invoked c p => some (c, p)
  | _ => none

end Effect

/-- `epoch` is what the machine's clock shows in seconds when the world starts. -/
structure World where
  epoch : Nat
  now : Instant
  issued : Nat
  cancelled : List Signal
  due : List (Instant × Signal)
  sink : Metrics.Sink
  trace : List Effect

namespace World

def start (epoch : Nat) (sink : Metrics.Sink) : World := ⟨epoch, 0, 0, [], [], sink, []⟩

def lastSecond : Int := Int.pow 2 63 - 1

def after? (w : World) (seconds : Nat) : Option Instant :=
  if w.epoch + w.now / 1000 + seconds ≤ lastSecond then some (w.now + 1000 * seconds) else none

def afterMillis? (w : World) (ms : Nat) : Option Instant :=
  if (1000 * w.epoch + w.now + ms) / 1000 ≤ lastSecond then some (w.now + ms) else none

def isCancelled (w : World) (s : Signal) : Bool := w.cancelled.contains s

def issue (w : World) : Signal × World := (⟨w.issued⟩, { w with issued := w.issued + 1 })

def cancel (w : World) (s : Signal) : World := { w with cancelled := s :: w.cancelled }

def cancelAt (w : World) (t : Instant) (s : Signal) : World :=
  if t ≤ w.now then w.cancel s else { w with due := w.due ++ [(t, s)] }

def moveTo (w : World) (t : Instant) : World :=
  if t ≤ w.now then w
  else
    { w with
      now := t
      cancelled := (w.due.filter fun d => d.1 ≤ t).map (·.2) ++ w.cancelled
      due := w.due.filter fun d => !(d.1 ≤ t) }

def done? (w : World) (c : Context) : Option ServiceError := c.done? (w.isCancelled c.signal) w.now

def emit (w : World) (e : Effect) : World := { w with trace := w.trace ++ [e] }

def log (w : World) (e : Log.Event) : World := w.emit (.logged e)

def record (w : World) (r : Metrics.Recording) : World :=
  { w.emit (.recorded r) with sink := w.sink.record r }

def cancellation? (w : World) (s : Signal) : Option Instant :=
  if w.isCancelled s then some w.now
  else ((w.due.filter fun d => d.2 = s).map (·.1)).min?

/-- When a waiter on a context is woken, and with which errors it may be: with either, if
cancellation and expiry fall together. -/
structure Resolution where
  time : Instant
  causes : List ServiceError

def resolution? (w : World) (c : Context) : Option Resolution :=
  match w.cancellation? c.signal, c.deadline.map (max w.now) with
  | none, none => none
  | some t, none => some ⟨t, [.cancelled]⟩
  | none, some d => some ⟨d, [.deadlineExceeded]⟩
  | some t, some d =>
    if t < d then some ⟨t, [.cancelled]⟩
    else if d < t then some ⟨d, [.deadlineExceeded]⟩
    else some ⟨t, [.deadlineExceeded, .cancelled]⟩

def Resolution.told? (r : Resolution) (favoured : ServiceError) : Option ServiceError :=
  if favoured ∈ r.causes then some favoured else r.causes.head?

/-- Waits for a context to be done, until `limit` at the latest. Where cancellation and expiry are
ready at once, nothing settles which of the two is taken: the choice is an argument. -/
def awaitDone (w : World) (c : Context) (limit : Instant)
    (favoured : ServiceError := .deadlineExceeded) : Option ServiceError × World :=
  match w.resolution? c with
  | some r => if r.time ≤ limit then (r.told? favoured, w.moveTo r.time) else (none, w.moveTo limit)
  | none => (none, w.moveTo limit)

end World

structure Exchange where
  world : World
  reply : ReplyHeaders
  span : Option Log.Span

namespace Exchange

def start (w : World) : Exchange := ⟨w, .empty, none⟩

def log (x : Exchange) (e : Log.Event) : Exchange :=
  { x with world := x.world.log { e with span := x.span } }

def record (x : Exchange) (r : Metrics.Recording) : Exchange :=
  { x with world := x.world.record r }

def cancel (x : Exchange) (s : Signal) : Exchange := { x with world := x.world.cancel s }

def refusalEvent : ReplyHeaders.Refusal → Log.Event
  | .name text => ⟨.debug, Log.Target.transport, "Dropping invalid reply header name",
      [("header", .literal text)], none⟩
  | .value n => ⟨.debug, Log.Target.transport, "Dropping invalid reply header value",
      [("header", .shown n.text)], none⟩

def write (x : Exchange) (w : HeaderWrite) : Exchange :=
  match ReplyHeaders.refusal? w with
  | some r => x.log (refusalEvent r)
  | none => { x with reply := x.reply.write w, world := x.world.emit (.wrote w) }

def set (x : Exchange) (name value : String) : Exchange := x.write (.set name value)

end Exchange

end RpcServer
