/-! Panics: runs that end without a result. -/

namespace RpcServer

inductive Panic where
  | text (s : String)
  | other
deriving DecidableEq

namespace Panic

def message : Panic → String
  | .text s => s
  | .other => "unknown panic payload"

def clockOverflow : Panic := .text "overflow when adding duration to instant"

def illegalHeaderValue : Panic := .text "HeaderValue::from_static with invalid bytes"

end Panic

end RpcServer
