import RpcServer.Number.Binary64

/-! Ordered JSON values. -/

namespace RpcServer

inductive Json.Number where
  | integer (n : Int)
  | binary (x : Binary64)
deriving DecidableEq

inductive Json where
  | null
  | bool (b : Bool)
  | number (n : Json.Number)
  | string (s : String)
  | array (items : List Json)
  | object (fields : List (String × Json))

namespace Json

def lowest : Int := -Int.pow 2 63

def highest : Int := Int.pow 2 64 - 1

def int (n : Int) : Json := .number (.integer n)

def setField (name : String) (v : Json) : List (String × Json) → List (String × Json)
  | [] => [(name, v)]
  | f :: fs => if f.1 = name then (name, v) :: fs else f :: setField name v fs

def ofFields (fields : List (String × Json)) : Json :=
  .object (fields.foldl (fun fs f => setField f.1 f.2 fs) [])

def field? (name : String) : Json → Option Json
  | .object fields => (fields.find? (·.1 = name)).map (·.2)
  | _ => none

def text? : Json → Option String
  | .string s => some s
  | _ => none

def int? : Json → Option Int
  | .number (.integer n) => some n
  | _ => none

def bool? : Json → Option Bool
  | .bool b => some b
  | _ => none

def items? : Json → Option (List Json)
  | .array items => some items
  | _ => none

def ofOption (v : Option Json) : Json := v.getD .null

end Json

end RpcServer
