/-! Log events: a level, where they come from, a message, fields in order and the span around them. -/

namespace RpcServer.Log

inductive Level where
  | trace
  | debug
  | info
  | warn
  | error
deriving DecidableEq

namespace Level

def rank : Level → Nat
  | .trace => 1
  | .debug => 2
  | .info => 3
  | .warn => 4
  | .error => 5

def name : Level → String
  | .trace => "TRACE"
  | .debug => "DEBUG"
  | .info => "INFO"
  | .warn => "WARN"
  | .error => "ERROR"

end Level

inductive Field where
  | shown (s : String)
  | literal (s : String)
  | number (n : Int)
deriving DecidableEq

structure Span where
  name : String
  fields : List (String × String)
deriving DecidableEq

structure Event where
  level : Level
  target : String
  message : String
  fields : List (String × Field)
  span : Option Span := none
deriving DecidableEq

namespace Target

def adapter : String := "rpc_pipeline::http::adapter"
def fallback : String := "rpc_pipeline::http::fallback"
def server : String := "rpc_pipeline::http::server"
def envelope : String := "rpc_pipeline::encoding::envelope"
def logging : String := "rpc_pipeline::observability::logging"
def metrics : String := "rpc_pipeline::observability::metrics"
def tracer : String := "rpc_pipeline::observability::middleware"
def transport : String := "rpc_pipeline::rpc::transport"
def shutdown : String := "rpc_pipeline::lifecycle::shutdown"
def signals : String := "rpc_pipeline::lifecycle::signals"
def launch : String := "rpc_pipeline"

end Target

def callSpan (operation traceId spanId : String) : Span :=
  ⟨"rpc.server", [("operation", operation), ("trace_id", traceId), ("span_id", spanId)]⟩

end RpcServer.Log
