import RpcServer.Config.Reading
import RpcServer.Config.Validation
import RpcServer.Text.Utf8

/-! Configurations from text: read, then validated. -/

namespace RpcServer.Config

inductive LoadError where
  | unreadable
  | malformed
  | invalid (violations : List Violation)
deriving DecidableEq

namespace LoadError

def message? : LoadError → Option String
  | .invalid vs => some ("Validation failed: " ++ Violation.displayAll vs)
  | _ => none

def inspection : LoadError → Inspection
  | .unreadable => .variant "Io" []
  | .malformed => .variant "Parse" []
  | .invalid vs => .variant "Validation" [.list (vs.map Violation.inspection)]

end LoadError

def parse (text : List Char) : Except LoadError Config :=
  match (Toml.document? text).bind ofEntries? with
  | none => .error .malformed
  | some c =>
    match violations c with
    | [] => .ok c
    | vs => .error (.invalid vs)

def load (file : Option (List UInt8)) : Except LoadError Config :=
  match file.bind Text.Utf8.decode? with
  | none => .error .unreadable
  | some text => parse text

end RpcServer.Config
