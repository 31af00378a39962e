import RpcServer.Json.Value
import RpcServer.Log.Event
import RpcServer.Text.Inspection

/-! Log events as lines: as one JSON object, or as text for people. -/

namespace RpcServer.Log

open Text

inductive Line where
  | object (v : Json)
  | text (s : List Char)

namespace Field

def toJson : Field → Json
  | .shown s => .string s
  | .literal s => .string s
  | .number n => .int n

def pretty : Field → List Char
  | .shown s => s.toList
  | .literal s => quoted s.toList
  | .number n => (toString n).toList

end Field

namespace Span

def toJson (s : Span) : Json :=
  .object (s.fields.map (fun f => (f.1, .string f.2)) ++ [("name", .string s.name)])

def pretty (s : Span) : List Char :=
  let fields := s.fields.map fun f => f.1.toList ++ '=' :: f.2.toList
  s.name.toList ++ '\x7b' :: joined [' '] fields ++ ['\x7d', ':', ' ']

end Span

namespace Event

def toJson (e : Event) : Json :=
  let fields := ("message", .string e.message) :: e.fields.map fun f => (f.1, f.2.toJson)
  let span := match e.span with
    | none => []
    | some s => [("span", s.toJson), ("spans", .array [s.toJson])]
  .object ([("level", .string e.level.name), ("fields", .object fields),
    ("target", .string e.target)] ++ span)

def levelWidth : Nat := 5

def pretty (e : Event) : List Char :=
  let level := e.level.name.toList
  let span := (e.span.map Span.pretty).getD []
  let fields := e.fields.flatMap fun f => ' ' :: f.1.toList ++ '=' :: f.2.pretty
  List.replicate (levelWidth - level.length) ' ' ++ level ++ ' ' :: span ++
    e.target.toList ++ ':' :: ' ' :: e.message.toList ++ fields

end Event

end RpcServer.Log
