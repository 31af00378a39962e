import RpcServer.Config.Schema
import RpcServer.Toml.Document

/-! Settings read from the values of a TOML document. What is absent keeps its default, and what is
unknown is passed over. -/

namespace RpcServer.Config

open Toml

/-- The values of named fields. A table gives them by name, and an array in order. A date has none
of them. -/
def fields? (names : List String) : Value → Option (List (Option Value))
  | .table _ es => some (names.map (Entries.get? es))
  | .array items => some ((List.range names.length).map fun i => items[i]?)
  | .tables items => some ((List.range names.length).map fun i => items[i]?.map (.table .headed ·))
  | .moment => some (names.map fun _ => none)
  | _ => none

def text? : Value → Option String
  | .string s => some s
  | _ => none

def natural? : Value → Option Nat
  | .integer n => if 0 ≤ n then some n.toNat else none
  | _ => none

def int32? : Value → Option Int32
  | .integer n => if -Int.pow 2 31 ≤ n ∧ n < Int.pow 2 31 then some (Int32.ofInt n) else none
  | _ => none

def bool? : Value → Option Bool
  | .bool b => some b
  | _ => none

def texts? : Value → Option (List String)
  | .array items => items.mapM text?
  | _ => none

def formatNamed? (s : String) : Option LogFormat :=
  if s = "json" then some .json else if s = "pretty" then some .pretty else none

def isEmpty : Value → Bool
  | .table _ es => es.isEmpty
  | .array items => items.isEmpty
  | _ => false

def format? : Value → Option LogFormat
  | .string s => formatNamed? s
  | .table _ [(key, v)] => if isEmpty v then formatNamed? key else none
  | _ => none

def optional {α : Type} (read : Value → Option α) (default : α) : Option Value → Option α
  | none => some default
  | some v => read v

def serverFields : List String :=
  ["bind_address", "endpoint", "request_timeout_secs", "max_body_bytes"]

def server? (v : Value) : Option Server := do
  let d : Server := {}
  match ← fields? serverFields v with
  | [bind, endpoint, timeout, body] =>
    return ⟨← optional text? d.bindAddress bind, ← optional text? d.endpoint endpoint,
      ← optional natural? d.requestTimeoutSecs timeout, ← optional natural? d.maxBodyBytes body⟩
  | _ => none

def observabilityFields : List String :=
  ["log_level", "log_format", "metrics_enabled", "metrics_address", "max_log_body_bytes",
    "redacted_headers"]

def observability? (v : Value) : Option Observability := do
  let d : Observability := {}
  match ← fields? observabilityFields v with
  | [level, format, enabled, address, body, redacted] =>
    return ⟨← optional text? d.logLevel level, ← optional format? d.logFormat format,
      ← optional bool? d.metricsEnabled enabled, ← optional text? d.metricsAddress address,
      ← optional natural? d.maxLogBodyBytes body, ← optional texts? d.redactedHeaders redacted⟩
  | _ => none

def responsesFields : List String :=
  ["success_code", "success_message", "not_found_code", "method_not_allowed_code",
    "fallback_error_code"]

def responses? (v : Value) : Option Responses := do
  let d : Responses := {}
  match ← fields? responsesFields v with
  | [success, message, notFound, notAllowed, fallback] =>
    return ⟨← optional int32? d.successCode success, ← optional text? d.successMessage message,
      ← optional int32? d.notFoundCode notFound,
      ← optional int32? d.methodNotAllowedCode notAllowed,
      ← optional int32? d.fallbackErrorCode fallback⟩
  | _ => none

def ofEntries? (es : Entries) : Option Config := do
  let server ← optional server? {} (es.get? "server")
  let observability ← optional observability? {} (es.get? "observability")
  let responses ← optional responses? {} (es.get? "responses")
  return ⟨server, observability, responses⟩

end RpcServer.Config
