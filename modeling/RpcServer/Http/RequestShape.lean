import RpcServer.Json.Node
import RpcServer.Http.Query
import RpcServer.Text.Blank
import RpcServer.Text.Digits

/-! The requests that a route takes: any JSON value, a record with fields of given kinds, or a type that
reads itself. A record is read from a JSON text or from a query string. -/

namespace RpcServer.Http

open Json

inductive FieldKind where
  | text
  | number (default : Nat)
deriving DecidableEq

/-- How a type of the host's reads itself: the value that a body or the pairs of a query have, and what
it finds wrong with those that have none. -/
structure Decoder where
  ofBody? : List UInt8 → Option Json
  ofPairs? : List (String × String) → Option Json
  bodyFault : List UInt8 → String
  pairsFault : List (String × String) → String

inductive RequestShape where
  | any
  | record (name : String) (fields : List (String × FieldKind))
  | typed (d : Decoder)

namespace FieldKind

def bound : Nat := Nat.pow 2 32

def ofNode? : FieldKind → Option Node → Option Json
  | .text, some v => v.text?.map .string
  | .text, none => none
  | .number _, some v => (v.int? 0 (bound - 1)).map .int
  | .number d, none => some (.int d)

def number? (s : List Char) : Option Nat := (Text.natural? s).filter (· < bound)

def ofTexts? : FieldKind → List String → Option Json
  | .text, [s] => some (.string s)
  | .number _, [s] => (number? s.toList).map fun n => .int n
  | .number d, [] => some (.int d)
  | _, _ => none

end FieldKind

namespace RequestShape

def fields? (fs : List (String × FieldKind)) (nodes : List (Option Node)) : Option Json :=
  let entry := fun (p : (String × FieldKind) × Option Node) =>
    (p.1.2.ofNode? p.2).map fun v => (p.1.1, v)
  ((fs.zip nodes).mapM entry).map .object

def ofBody? (shape : RequestShape) (body : List UInt8) : Option Json :=
  match shape with
  | .any => Json.ofBytes? body
  | .record _ fs =>
    (Node.ofText? (Text.Utf8.scan body)).bind fun v => (v.record? (fs.map (·.1))).bind (fields? fs)
  | .typed d => d.ofBody? body

def ofPairs? (shape : RequestShape) (pairs : List (String × String)) : Option Json :=
  match shape with
  | .any => some (Json.ofFields (pairs.map fun p => (p.1, .string p.2)))
  | .record _ fs =>
    let entry := fun (f : String × FieldKind) =>
      (f.2.ofTexts? ((pairs.filter fun p => p.1 = f.1).map (·.2))).map fun v => (f.1, v)
    (fs.mapM entry).map .object
  | .typed d => d.ofPairs? pairs

def isBlank (body : List UInt8) : Bool := body.all Text.isBlankByte

end RequestShape

end RpcServer.Http
