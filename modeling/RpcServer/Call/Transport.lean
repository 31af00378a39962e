import RpcServer.Headers
import RpcServer.Text.Split

/-! The server's view of an inbound call. -/

namespace RpcServer

inductive TransportKind where
  | http
  | grpc
deriving DecidableEq

def TransportKind.display : TransportKind → String
  | .http => "http"
  | .grpc => "grpc"

structure Transport where
  kind : TransportKind
  endpoint : String
  operation : String
  method : String
  path : String
  headers : Headers
deriving DecidableEq

def clientAddress (h : Headers) : String :=
  match ([Header.Name.forwardedFor, .realIp].filterMap h.text?).find? (· ≠ []) with
  | some s => String.ofList s
  | none => "unknown"

end RpcServer
