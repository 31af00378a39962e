import RpcServer.Config.Schema
import RpcServer.Net.SocketAddress
import RpcServer.Text.Inspection

/-! What a configuration has to satisfy beyond its types. All violations are found, in the order of
the fields. -/

namespace RpcServer.Config

structure Violation where
  field : String
  message : String
deriving DecidableEq

namespace Violation

def display (v : Violation) : String := v.field ++ ": " ++ v.message

def inspection (v : Violation) : Inspection :=
  .record "ValidationError" [("field", .text v.field), ("message", .text v.message)]

def displayAll (vs : List Violation) : String := String.intercalate ", " (vs.map display)

end Violation

def isSocketAddress (s : String) : Bool := (Net.SocketAddress.parse? s.toList).isSome

def addressViolations (field address : String) : List Violation :=
  if isSocketAddress address then []
  else [⟨field, "'" ++ address ++ "' is not a socket address"⟩]

def zeroViolations (field : String) (n : Nat) : List Violation :=
  if n = 0 then [⟨field, "must be greater than 0"⟩] else []

def codes (r : Responses) : List (String × Int32) :=
  [("responses.success_code", r.successCode), ("responses.not_found_code", r.notFoundCode),
    ("responses.method_not_allowed_code", r.methodNotAllowedCode),
    ("responses.fallback_error_code", r.fallbackErrorCode)]

def codeViolations (earlier : List Int32) : List (String × Int32) → List Violation
  | [] => []
  | (field, code) :: rest =>
    (if code ≤ 0 then [⟨field, "must be positive"⟩] else []) ++
      (if code ∈ earlier then [⟨field, "code " ++ toString code.toInt ++ " is already in use"⟩] else []) ++
      codeViolations (earlier ++ [code]) rest

def serverViolations (s : Server) : List Violation :=
  addressViolations "server.bind_address" s.bindAddress ++
    zeroViolations "server.request_timeout_secs" s.requestTimeoutSecs ++
    zeroViolations "server.max_body_bytes" s.maxBodyBytes

def observabilityViolations (o : Observability) : List Violation :=
  (if o.metricsEnabled then addressViolations "observability.metrics_address" o.metricsAddress
    else []) ++
    zeroViolations "observability.max_log_body_bytes" o.maxLogBodyBytes

def violations (c : Config) : List Violation :=
  serverViolations c.server ++ observabilityViolations c.observability ++
    codeViolations [] (codes c.responses)

theorem violations_default : violations {} = [] := by decide

end RpcServer.Config
