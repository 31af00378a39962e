import RpcServer.Http.Message
import RpcServer.Http.RequestFault
import RpcServer.Operation
import RpcServer.Tracer

/-! From a request for a route to its response: the body or the query is decoded, the operation is
called under observation, and what it ends with is encoded. -/

namespace RpcServer.Http

structure Route where
  operation : String
  shape : RequestShape
  handler : Handler

inductive Outcome where
  | answered (r : Response)
  | panicked (p : Panic)
  | abandoned
deriving DecidableEq

structure Dispatcher where
  encoder : Reply.Encoder
  tracer : Tracer
  endpoint : String
  timeoutSecs : Nat
  maxBodyBytes : Nat

namespace Dispatcher

def bodyTooLong : ServiceError := .invalidBody "length limit exceeded"

def undecodableBody (shape : RequestShape) (body : List UInt8) : ServiceError :=
  .invalidBody (shape.bodyFault body)

def undecodableQuery (shape : RequestShape) (pairs : List (String × String)) : ServiceError :=
  .invalidQuery (shape.queryFault pairs)

def input (shape : RequestShape) (maxBodyBytes : Nat) (r : Request) : Except ServiceError Json :=
  if maxBodyBytes < r.body.length then .error bodyTooLong
  else if RequestShape.isBlank r.body then
    let pairs := Query.pairs (r.uri.query.getD "")
    match shape.ofPairs? pairs with
    | some v => .ok v
    | none => .error (undecodableQuery shape pairs)
  else
    match shape.ofBody? r.body with
    | some v => .ok v
    | none => .error (undecodableBody shape r.body)

variable (d : Dispatcher)

def settle (e : Except Panic (Reply.Encoded × List Log.Event)) (w : World) :
    Except Panic Reply.Encoded × World :=
  match e with
  | .ok (e, events) => (.ok e, events.foldl World.log w)
  | .error p => (.error p, w)

def encodeError (r : Request) (e : ServiceError) (w : World) : Except Panic Reply.Encoded × World :=
  let w := if d.tracer.measures then w.record (.failure r.method r.uri.path Metrics.serverError) else w
  settle (d.encoder.encodeError r.headers e) w

def encodeResult (r : Request) (result : Except ServiceError Payload) (w : World) :
    Except Panic Reply.Encoded × World :=
  match result with
  | .ok reply => settle (d.encoder.encodeSuccess r.headers reply) w
  | .error e => d.encodeError r e w

def outcome (f : Reply.Encoded → Response) (e : Except Panic Reply.Encoded) : Outcome :=
  match e with
  | .ok e => .answered (f e)
  | .error p => .panicked p

def reject (r : Request) (e : ServiceError) (w : World) : Outcome × World :=
  let (encoded, w) := d.encodeError r e w
  (outcome .ofEncoded encoded, w)

def transport (route : Route) (r : Request) : Transport :=
  ⟨.http, d.endpoint, route.operation, r.method, r.uri.path, r.headers⟩

def context (route : Route) (r : Request) (s : Signal) (deadline : Instant) : Context :=
  ((Context.new s).withDeadline deadline).withTransport (d.transport route r)

def answer (r : Request) (h : Halt) (x : Exchange) : Outcome × World :=
  match h with
  | .returned result =>
    let (encoded, w) := d.encodeResult r result x.world
    (outcome (fun e => .withReply e x.reply.fields) encoded, w)
  | .panicked p => (.panicked p, x.world)
  | .abandoned => (.abandoned, x.world)

/-- Calls the operation. Its signal is cancelled when the server stops waiting, however that is. -/
def call (limit : Instant) (route : Route) (r : Request) (v : Json) (w : World) : Outcome × World :=
  let (s, w) := w.issue
  match w.after? d.timeoutSecs with
  | none => (.panicked .clockOverflow, w.cancel s)
  | some deadline =>
    let (h, x) := d.tracer.serve limit (Operation.service route.handler)
      (d.context route r s deadline) (.document v) (.start w)
    let (o, w) := d.answer r h x
    (o, w.cancel s)

def dispatch (limit : Instant) (route : Route) (r : Request) (w : World) : Outcome × World :=
  match input route.shape d.maxBodyBytes r with
  | .error e => d.reject r e w
  | .ok v => d.call limit route r v w

theorem dispatch_of_input_error {route : Route} {r : Request} {e : ServiceError}
    (h : input route.shape d.maxBodyBytes r = .error e) (limit : Instant) (w : World) :
    d.dispatch limit route r w = d.reject r e w := by
  simp [dispatch, h]

end Dispatcher

end RpcServer.Http
