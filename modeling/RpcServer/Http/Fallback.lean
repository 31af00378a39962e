import RpcServer.Config.Schema
import RpcServer.Http.Message
import RpcServer.World

/-! Answers to requests that no route takes. They say nothing about the request. -/

namespace RpcServer.Http

structure Fallback where
  notFoundCode : Int32
  methodNotAllowedCode : Int32
  measures : Bool
deriving DecidableEq

namespace Fallback

def ofConfig (c : Config.Responses) (measures : Bool) : Fallback :=
  ⟨c.notFoundCode, c.methodNotAllowedCode, measures⟩

def codeOnly (status : Nat) (code : Int32) : Response :=
  .ofEncoded ⟨status, .json, Text.Utf8.encode (Reply.Envelope.codeOnly code).render⟩

def event (message method path : String) : Log.Event :=
  ⟨.warn, Log.Target.fallback, message, [("method", .shown method), ("path", .shown path)], none⟩

variable (f : Fallback)

def report (reason message method path : String) (w : World) : World :=
  let w := if f.measures then w.record (.failure method path reason) else w
  w.log (event message method path)

def notFound (method path : String) (w : World) : Response × World :=
  (codeOnly 404 f.notFoundCode, f.report Metrics.notFound "Route not found" method path w)

def methodNotAllowed (method path : String) (w : World) : Response × World :=
  (codeOnly 405 f.methodNotAllowedCode,
    f.report Metrics.methodNotAllowed "Method not allowed" method path w)

end Fallback

end RpcServer.Http
