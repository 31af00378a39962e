import RpcServer.Log.Loggable
import RpcServer.Program
import RpcServer.Trace.Propagation

/-! Observation of calls. Around its handler each call binds the caller's span, is logged and
measured, and names its trace in the reply headers. The handler's result is never changed. -/

namespace RpcServer

structure Tracer where
  maxBodyBytes : Nat := Log.defaultBodyLimit
  redactedHeaders : List String := Log.defaultRedactedNames
  measures : Bool := true
deriving DecidableEq

namespace Tracer

structure Call where
  context : Context
  transport : Transport
  identity : Trace.Identity
  entered : Instant

def Call.start (c : Context) (t : Transport) (now : Instant) : Call :=
  let c := Trace.extract c t.headers
  ⟨c, t, c.identity, now⟩

variable (tr : Tracer)

def missingTransport : Log.Event :=
  ⟨.warn, Log.Target.tracer, "No transport in context, proceeding without tracing", [], none⟩

def received (t : Transport) (request : Payload) : Log.Event :=
  ⟨.info, Log.Target.tracer, "request received",
    [("api", .shown t.operation), ("endpoint", .shown t.endpoint),
      ("client_ip", .shown (clientAddress t.headers)),
      ("headers", .shown (String.ofList (Log.headers tr.redactedHeaders t.headers))),
      ("body", .shown (String.ofList (Log.body tr.maxBodyBytes request)))], none⟩

def reply? (r : Except ServiceError Payload) : Option Payload :=
  match r with
  | .ok p => some p
  | .error _ => none

def resultLevel : Except ServiceError Payload → Log.Level
  | .ok _ => .info
  | .error _ => .error

def resultError : Except ServiceError Payload → Log.Field
  | .ok _ => .literal "none"
  | .error e => .shown e.display

def completed (t : Transport) (r : Except ServiceError Payload) (reply : Headers) : Log.Event :=
  ⟨resultLevel r, Log.Target.tracer, "request completed",
    [("api", .shown t.operation), ("endpoint", .shown t.endpoint), ("error", resultError r),
      ("headers", .shown (String.ofList (Log.headers tr.redactedHeaders reply))),
      ("body", .shown (String.ofList (Log.optionalBody tr.maxBodyBytes (reply? r))))], none⟩

def measure (rs : List Metrics.Recording) (x : Exchange) : Exchange :=
  if tr.measures then rs.foldl Exchange.record x else x

def annotate (i : Trace.Identity) (isMessage : Bool) (x : Exchange) : Exchange :=
  let x := (x.set "Trace-Id" i.traceId).set "Span-Id" i.spanId
  if isMessage then x.set "content-type" "application/json" else x

def entryRecordings (t : Transport) (request : Payload) : List Metrics.Recording :=
  .enter t.operation ::
    ((Log.wireSize? request).map fun n => .requestSize t.method t.operation n).toList

def enter (k : Call) (request : Payload) (x : Exchange) : Exchange :=
  let x := x.log (tr.received k.transport request)
  let x := tr.measure (entryRecordings k.transport request) x
  { x with span := some (Log.callSpan k.transport.operation k.identity.traceId k.identity.spanId) }

def status : Except ServiceError Payload → String
  | .ok _ => Metrics.success
  | .error _ => Metrics.error

def failures (t : Transport) : Except ServiceError Payload → List Metrics.Recording
  | .ok _ => []
  | .error _ => [.failure t.method t.operation Metrics.handlerError]

def resultRecordings (t : Transport) (elapsed : Metrics.Elapsed)
    (r : Except ServiceError Payload) : List Metrics.Recording :=
  [.duration t.method t.operation elapsed, .request t.method t.operation (status r)] ++
    (((reply? r).bind Log.wireSize?).map fun n => .responseSize t.method t.operation n).toList ++
    failures t r

def isMessage (r : Except ServiceError Payload) : Bool := (reply? r).any Payload.isMessage

def leave (k : Call) (x : Exchange) : Exchange := tr.measure [.leave k.transport.operation] x

def complete (k : Call) (r : Except ServiceError Payload) (x : Exchange) : Exchange :=
  let elapsed := Metrics.Elapsed.ofMillis (x.world.now - k.entered).toNat
  let x := x.log (tr.completed k.transport r x.reply.fields)
  let x := annotate k.identity (isMessage r) x
  tr.leave k (tr.measure (resultRecordings k.transport elapsed r) x)

def abandon (k : Call) (x : Exchange) : Exchange := annotate k.identity false (tr.leave k x)

def finish (k : Call) (h : Halt) (x : Exchange) : Exchange :=
  let x := { x with span := none }
  match h with
  | .returned r => tr.complete k r x
  | .panicked _ => tr.abandon k x
  | .abandoned => tr.abandon k x

/-- Makes a call to `inner`. A context that is done is refused at once, and one without a transport
goes to `inner` unobserved. -/
def serve (limit : Instant) (inner : Context → Payload → Program) (c : Context) (request : Payload)
    (x : Exchange) : Halt × Exchange :=
  match x.world.done? c with
  | some e => (.returned (.error e), x)
  | none =>
    match c.transport with
    | none => (inner c request).run c limit (x.log missingTransport)
    | some t =>
      let k := Call.start c t x.world.now
      let (h, x) := (inner k.context request).run k.context limit (tr.enter k request x)
      (h, tr.finish k h x)

theorem serve_done {x : Exchange} {c : Context} {e : ServiceError} (h : x.world.done? c = some e)
    (limit : Instant) (inner : Context → Payload → Program) (request : Payload) :
    tr.serve limit inner c request x = (.returned (.error e), x) := by
  simp [serve, h]

end Tracer

end RpcServer
