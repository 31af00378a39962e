import RpcServer.Program

/-! Handlers of operations. An operation takes a JSON value; its panics become errors, so that a call
to it always ends with a result or is abandoned. -/

namespace RpcServer

abbrev Handler := Context → Json → Program

namespace Operation

def unexpectedRequest : ServiceError :=
  .internal "UNEXPECTED_REQUEST" "request payload has an unexpected type"

def panicked : ServiceError := .internal "PANIC" "handler panicked"

def panicEvent (p : Panic) : Log.Event :=
  ⟨.error, Log.Target.adapter, "Handler panicked", [("panic", .shown p.message)], none⟩

def onPanic (p : Panic) : Program := .act (.log (panicEvent p)) (.fail panicked)

def service (h : Handler) (c : Context) (request : Payload) : Program :=
  match request.document? with
  | some v => .act (.invoke request) ((h c v).rescue onPanic)
  | none => .fail unexpectedRequest

end Operation

end RpcServer
