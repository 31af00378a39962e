import RpcServer.Dict

/-! Errors of handlers and of the server itself, and errors found inside foreign ones. -/

namespace RpcServer

abbrev Metadata := Dict String String

structure ServiceError where
  code : Int32
  reason : String
  message : String
  metadata : Metadata := .empty
deriving DecidableEq

namespace ServiceError

def badRequest (reason message : String) : ServiceError := ⟨400, reason, message, .empty⟩

def internal (reason message : String) : ServiceError := ⟨500, reason, message, .empty⟩

def cancelled : ServiceError := ⟨499, "CANCELLED", "context canceled", .empty⟩

def deadlineExceeded : ServiceError := ⟨504, "DEADLINE_EXCEEDED", "context deadline exceeded", .empty⟩

def invalidBody (message : String) : ServiceError := badRequest "INVALID_BODY" message

def invalidQuery (message : String) : ServiceError := badRequest "INVALID_QUERY" message

def unknown (message : String) : ServiceError := internal "UNKNOWN" message

def withMetadata (e : ServiceError) (key value : String) : ServiceError :=
  { e with metadata := e.metadata.insert key value }

def display (e : ServiceError) : String :=
  "error: code = " ++ toString e.code.toInt ++ " reason = " ++ e.reason ++ " message = " ++ e.message

end ServiceError

inductive Fault where
  | service (e : ServiceError)
  | plain (message : String)
  | wrapped (message : String) (cause : Fault)
  | ioAround (inner : Fault)

namespace Fault

def display : Fault → String
  | .service e => e.display
  | .plain message => message
  | .wrapped message _ => message
  | .ioAround inner => inner.display

/-- The next error of the chain. An input-output error around another hands on that one's cause. -/
def source? : Fault → Option Fault
  | .service _ => none
  | .plain _ => none
  | .wrapped _ cause => some cause
  | .ioAround inner => inner.source?

def chain : Fault → List Fault
  | .service e => [.service e]
  | .plain message => [.plain message]
  | .wrapped message cause => .wrapped message cause :: cause.chain
  | .ioAround inner => .ioAround inner :: inner.chain.tail

theorem chain_eq (f : Fault) : f.chain = f :: (f.source?.map chain).getD [] := by
  induction f with
  | service e => rfl
  | plain m => rfl
  | wrapped m cause _ => rfl
  | ioAround inner ih => simp [chain, source?, ih]

def service? : Fault → Option ServiceError
  | .service e => some e
  | _ => none

end Fault

def ServiceError.ofFault (f : Fault) : ServiceError :=
  (f.chain.findSome? Fault.service?).getD (.unknown f.display)

end RpcServer
