import RpcServer.Config.Reading
import RpcServer.Json.Value

/-! Configurations as JSON, with the same fields as in TOML. -/

namespace RpcServer

mutual

def Toml.Value.ofJson? : Json → Option Toml.Value
  | .null => none
  | .bool b => some (.bool b)
  | .number (.integer n) => some (.integer n)
  | .number (.binary _) => some .float
  | .string s => some (.string s)
  | .array items => (Toml.Value.ofItems? items).map .array
  | .object fields => (Toml.Value.ofFields? fields).map (.table .inline)

def Toml.Value.ofItems? : List Json → Option (List Toml.Value)
  | [] => some []
  | v :: vs =>
    match Toml.Value.ofJson? v with
    | some v => (Toml.Value.ofItems? vs).map (v :: ·)
    | none => none

def Toml.Value.ofFields? : List (String × Json) → Option Toml.Entries
  | [] => some []
  | (_, .null) :: fs => Toml.Value.ofFields? fs
  | (k, v) :: fs =>
    match Toml.Value.ofJson? v with
    | some v => (Toml.Value.ofFields? fs).map ((k, v) :: ·)
    | none => none

end

namespace Config

def ofJson? (v : Json) : Option Config :=
  match Toml.Value.ofJson? v with
  | some (.table _ es) => ofEntries? es
  | _ => none

def LogFormat.name : LogFormat → String
  | .json => "json"
  | .pretty => "pretty"

def Server.toJson (s : Server) : Json :=
  .object [("bind_address", .string s.bindAddress), ("endpoint", .string s.endpoint),
    ("request_timeout_secs", .int s.requestTimeoutSecs), ("max_body_bytes", .int s.maxBodyBytes)]

def Observability.toJson (o : Observability) : Json :=
  .object [("log_level", .string o.logLevel), ("log_format", .string o.logFormat.name),
    ("metrics_enabled", .bool o.metricsEnabled), ("metrics_address", .string o.metricsAddress),
    ("max_log_body_bytes", .int o.maxLogBodyBytes),
    ("redacted_headers", .array (o.redactedHeaders.map .string))]

def Responses.toJson (r : Responses) : Json :=
  .object [("success_code", .int r.successCode.toInt), ("success_message", .string r.successMessage),
    ("not_found_code", .int r.notFoundCode.toInt),
    ("method_not_allowed_code", .int r.methodNotAllowedCode.toInt),
    ("fallback_error_code", .int r.fallbackErrorCode.toInt)]

def toJson (c : Config) : Json :=
  .object [("server", c.server.toJson), ("observability", c.observability.toJson),
    ("responses", c.responses.toJson)]

end Config

end RpcServer
