import RpcServer.Log.Loggable

/-! The settings of a server and their defaults. -/

namespace RpcServer

namespace Config

structure Server where
  bindAddress : String := "0.0.0.0:8000"
  endpoint : String := ""
  requestTimeoutSecs : Nat := 10
  maxBodyBytes : Nat := 4194304
deriving DecidableEq

def Server.reportedEndpoint (s : Server) : String :=
  if s.endpoint = "" then "http://" ++ s.bindAddress else s.endpoint

inductive LogFormat where
  | json
  | pretty
deriving DecidableEq

structure Observability where
  logLevel : String := "info"
  logFormat : LogFormat := .pretty
  metricsEnabled : Bool := true
  metricsAddress : String := "0.0.0.0:9090"
  maxLogBodyBytes : Nat := Log.defaultBodyLimit
  redactedHeaders : List String := Log.defaultRedactedNames
deriving DecidableEq

structure Responses where
  successCode : Int32 := 200
  successMessage : String := "success"
  notFoundCode : Int32 := 404
  methodNotAllowedCode : Int32 := 405
  fallbackErrorCode : Int32 := 500
deriving DecidableEq

end Config

structure Config where
  server : Config.Server := {}
  observability : Config.Observability := {}
  responses : Config.Responses := {}
deriving DecidableEq

end RpcServer
