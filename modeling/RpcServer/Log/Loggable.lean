import RpcServer.Dict
import RpcServer.Headers
import RpcServer.Payload
import RpcServer.Text.Case

/-! Payloads and headers as log events show them: bounded in length, and without the values of
sensitive headers. -/

namespace RpcServer.Log

open Text

def defaultBodyLimit : Nat := 1048576

def redacted : List Char := "[REDACTED]".toList

def binary : List Char := "<binary>".toList

def defaultRedactedNames : List String :=
  ["authorization", "proxy-authorization", "cookie", "set-cookie", "x-api-key"]

def tooLarge (size : Nat) : List Char :=
  "<body too large, size: ".toList ++ (toString size).toList ++ " bytes>".toList

def bounded (limit : Nat) (s : List Char) : List Char :=
  if limit < Utf8.size s then tooLarge (Utf8.size s) else s

def failed (e : Data.Failure) : List Char :=
  "<failed to marshal body: ".toList ++ e.message.toList ++ ['>']

def body (limit : Nat) (p : Payload) : List Char :=
  match p.wire? with
  | some (.ok s) => bounded limit s
  | some (.error e) => failed e
  | none => bounded limit p.inspection.render

def optionalBody (limit : Nat) : Option Payload → List Char
  | some p => body limit p
  | none => "<none>".toList

def wireSize? (p : Payload) : Option Nat :=
  match p.wire? with
  | some (.ok s) => some (Utf8.size s)
  | _ => none

def isRedacted (names : List String) (n : Header.Name) : Bool :=
  names.any fun r => sameIgnoringCase r n.text

def headerValue (names : List String) (n : Header.Name) (v : Header.Value) : List Char :=
  if isRedacted names n then redacted else v.text?.getD binary

def addHeader (names : List String) (d : Dict String (List Char))
    (e : Header.Name × Header.Value) : Dict String (List Char) :=
  let shown := headerValue names e.1 e.2
  match d.get? e.1.text with
  | some s => d.insert e.1.text (s ++ [',', ' '] ++ shown)
  | none => d.insert e.1.text shown

def headerTable (names : List String) (h : Headers) : Dict String (List Char) :=
  h.entries.foldl (addHeader names) .empty

def headers (names : List String) (h : Headers) : List Char :=
  (Inspection.table ((headerTable names h).entries.map fun e =>
    (e.1, .text (String.ofList e.2)))).render

theorem bounded_of_le {limit : Nat} {s : List Char} (h : Utf8.size s ≤ limit) :
    bounded limit s = s := by
  simp [bounded, Nat.not_lt.mpr h]

end RpcServer.Log
