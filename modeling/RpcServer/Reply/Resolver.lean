import RpcServer.Panic
import RpcServer.ServiceError
import RpcServer.Text.Inspection

/-! The code that an error is reported under. -/

namespace RpcServer.Reply

structure Resolver where
  mapper : Option (ServiceError → Except Panic Int32)
  fallbackCode : Int32

namespace Resolver

def defaultCode (e : ServiceError) (fallback : Int32) : Int32 :=
  if e.code = 0 then fallback else e.code

def resolve (r : Resolver) : Option ServiceError → Except Panic Int32
  | none => .ok r.fallbackCode
  | some e =>
    match r.mapper with
    | some mapper => mapper e
    | none => .ok (defaultCode e r.fallbackCode)

def inspection (r : Resolver) : Inspection :=
  .record "ErrorCodeResolver"
    [("mapper", .ofOption (r.mapper.map fun _ => .text "<fn>")),
      ("fallback_code", .number r.fallbackCode.toInt)]

end Resolver

end RpcServer.Reply
