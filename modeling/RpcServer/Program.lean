import RpcServer.Panic
import RpcServer.World

/-! Handlers as programs: what a handler does, asks and waits for, step by step, up to its end. -/

namespace RpcServer

inductive Action where
  | write (w : HeaderWrite)
  | log (e : Log.Event)
  | cancel
  | invoke (request : Payload)

structure View where
  now : Instant
  done : Option ServiceError
  reply : Headers
  inflight : String → Option Int

/-- A wait for the context to be done has its own `favoured` error, which is taken where either may be. -/
inductive Program where
  | reply (p : Payload)
  | fail (e : ServiceError)
  | panic (p : Panic)
  | act (a : Action) (next : Program)
  | look (next : View → Program)
  | sleep (ms : Nat) (next : Program)
  | awaitDone (next : ServiceError → Program) (favoured : ServiceError := .deadlineExceeded)
  | hang

/-- How a run ended. It is abandoned when its caller stops waiting. -/
inductive Halt where
  | returned (result : Except ServiceError Payload)
  | panicked (p : Panic)
  | abandoned

namespace Program

def perform (c : Context) (x : Exchange) : Action → Exchange
  | .write w => x.write w
  | .log e => x.log e
  | .cancel => x.cancel c.signal
  | .invoke p => { x with world := x.world.emit (.invoked c p) }

def view (c : Context) (x : Exchange) : View where
  now := x.world.now
  done := x.world.done? c
  reply := x.reply.fields
  inflight op := x.world.sink.store?.map fun s => s.inflightOf op

def run (c : Context) (limit : Instant) : Program → Exchange → Halt × Exchange
  | .reply p, x => (.returned (.ok p), x)
  | .fail e, x => (.returned (.error e), x)
  | .panic p, x => (.panicked p, x)
  | .act a next, x => run c limit next (perform c x a)
  | .look next, x => run c limit (next (view c x)) x
  | .sleep ms next, x =>
    let t := x.world.now + ms
    if t ≤ limit then run c limit next { x with world := x.world.moveTo t }
    else (.abandoned, { x with world := x.world.moveTo limit })
  | .awaitDone next favoured, x =>
    match x.world.awaitDone c limit favoured with
    | (some e, w) => run c limit (next e) { x with world := w }
    | (none, w) => (.abandoned, { x with world := w })
  | .hang, x => (.abandoned, { x with world := x.world.moveTo limit })

def rescue (instead : Panic → Program) : Program → Program
  | .reply p => .reply p
  | .fail e => .fail e
  | .panic p => instead p
  | .act a next => .act a (rescue instead next)
  | .look next => .look fun v => rescue instead (next v)
  | .sleep ms next => .sleep ms (rescue instead next)
  | .awaitDone next favoured => .awaitDone (fun e => rescue instead (next e)) favoured
  | .hang => .hang

end Program

end RpcServer
