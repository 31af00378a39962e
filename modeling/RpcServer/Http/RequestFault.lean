import RpcServer.Http.RequestShape
import RpcServer.Json.Diagnosis

/-! Why a body or a query string is not the request that a route takes, in words for the logs. -/

namespace RpcServer.Http

open Json Json.Diagnosis

namespace FieldKind

def expected : FieldKind → String
  | .text => "a string"
  | .number _ => "u32"

def isRequired : FieldKind → Bool
  | .text => true
  | .number _ => false

def reading (k : FieldKind) (s : List Char) : Reading :=
  match k with
  | .text => neededText k.expected s
  | .number _ => neededNatural k.expected bound s

def numberFault (s : List Char) : String :=
  if s = [] then "cannot parse integer from empty string"
  else if (Text.natural? s).isSome then "number too large to fit in target type"
  else "invalid digit found in string"

def textFault? (k : FieldKind) (s : String) : Option String :=
  match k with
  | .text => none
  | .number _ => if (number? s.toList).isNone then some (numberFault s.toList) else none

end FieldKind

namespace RequestShape

def recordTitle (name : String) : String := "struct " ++ name

def countTitle (name : String) (n : Nat) : String :=
  recordTitle name ++ " with " ++ toString n ++ if n = 1 then " element" else " elements"

def missing? (fs : List (String × FieldKind)) (seen : List String) : Option String :=
  (fs.find? fun f => f.2.isRequired && !seen.contains f.1).map (·.1)

def skipClose (s : List Char) : List Char :=
  match skipSpace s with
  | '\x7d' :: t => t
  | t => t

def membersReading (fs : List (String × FieldKind)) :
    (fuel : Nat) → (seen : List String) → (first : Bool) → List Char → Reading
  | 0, _, _, s => failNext .noValue s
  | fuel + 1, seen, first, s =>
    match nextMember first s with
    | .error f => .error f
    | .ok (false, rest) =>
      match missing? fs seen with
      | some name => fail (.missingField name) rest
      | none => .ok rest
    | .ok (true, rest) =>
      match string true [] rest with
      | .error f => .error f
      | .ok after =>
        let name := ((read ('"' :: rest) after).text?).getD ""
        if seen.contains name then fail (.repeatedField name) (skipClose after)
        else
          match colon after with
          | .error f => .error f
          | .ok rest =>
            match fs.find? fun f => f.1 = name with
            | none =>
              match skippedValue rest with
              | .error f => .error f
              | .ok rest => membersReading fs fuel seen false rest
            | some (_, kind) =>
              match kind.reading rest with
              | .error f => .error f
              | .ok rest => membersReading fs fuel (name :: seen) false rest

def endOfItems (s : List Char) : Reading :=
  match skipSpace s with
  | [] => fail .endOfList []
  | ']' :: t => .ok t
  | ',' :: t =>
    match skipSpace t with
    | ']' :: u => fail .trailingComma u
    | u => failNext .trailingText u
  | _ :: t => fail .trailingText t

def itemsReading (title : String) : (fs : List (String × FieldKind)) → (index : Nat) → List Char → Reading
  | [], _, s => endOfItems s
  | (_, kind) :: fs, index, s =>
    match nextItem (index = 0) s with
    | .error f => .error f
    | .ok (false, rest) =>
      if kind.isRequired then fail (.wrongLength index title) rest else .ok rest
    | .ok (true, rest) =>
      match kind.reading rest with
      | .error f => .error f
      | .ok rest => itemsReading title fs (index + 1) rest

def recordReading (name : String) (fs : List (String × FieldKind)) (s : List Char) : Reading :=
  match skipSpace s with
  | [] => fail .endOfValue []
  | '\x7b' :: t => membersReading fs (fuelFor t) [] true t
  | '[' :: t => itemsReading (countTitle name fs.length) fs 0 t
  | t => mismatch (recordTitle name) t

def bodyFault (shape : RequestShape) (body : List UInt8) : String :=
  match shape with
  | .any => faultMessage body (finish (neededValue (chars body)))
  | .record name fs => faultMessage body (finish (recordReading name fs (chars body)))
  | .typed d => d.bodyFault body

def pairsFault? (fs : List (String × FieldKind)) (seen : List String) :
    List (String × String) → Option String
  | [] => (missing? fs seen).map fun name => (Cause.missingField name).message
  | (name, text) :: rest =>
    match fs.find? fun f => f.1 = name with
    | none => pairsFault? fs seen rest
    | some (_, kind) =>
      if seen.contains name then some (Cause.repeatedField name).message
      else
        match kind.textFault? text with
        | some fault => some (name ++ ": " ++ fault)
        | none => pairsFault? fs (name :: seen) rest

def queryFault (shape : RequestShape) (pairs : List (String × String)) : String :=
  let fault := match shape with
    | .any => ""
    | .record _ fs => (pairsFault? fs [] pairs).getD ""
    | .typed d => d.pairsFault pairs
  "Failed to deserialize query string: " ++ fault

end RequestShape

end RpcServer.Http
