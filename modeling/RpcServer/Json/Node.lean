import RpcServer.Json.Token

/-! The tree of a JSON text as it is written: repeated fields are all there, and a string or number
may lack a value. Values, and records with known fields, are read off this tree. -/

namespace RpcServer.Json

inductive Node where
  | null
  | bool (b : Bool)
  | number (n : Option Number)
  | string (s : Option String)
  | array (items : List Node)
  | object (fields : List (Option String × Node))

namespace Node

/-- A container that is being filled; what it holds is in reverse. A member has its name and awaits
its value. -/
inductive Open where
  | array (items : List Node)
  | object (fields : List (Option String × Node))
  | member (fields : List (Option String × Node)) (name : Option String)

inductive Reader where
  | value (around : List Open)
  | first (around : List Open)
  | name (around : List Open)
  | colon (around : List Open)
  | next (around : List Open)
  | done (root : Node)

def supply (v : Node) : List Open → Option Reader
  | [] => some (.done v)
  | .array items :: around => some (.next (.array (v :: items) :: around))
  | .member fields name :: around => some (.next (.object ((name, v) :: fields) :: around))
  | .object _ :: _ => none

def beginValue (around : List Open) : Token → Option Reader
  | .null => supply .null around
  | .bool b => supply (.bool b) around
  | .number n => supply (.number n) around
  | .string s => supply (.string s) around
  | .openArray => some (.first (.array [] :: around))
  | .openObject => some (.first (.object [] :: around))
  | _ => none

def beginName : List Open → Token → Option Reader
  | .object fields :: around, .string s => some (.colon (.member fields s :: around))
  | _, _ => none

def close : List Open → Token → Option Reader
  | .array items :: around, .closeArray => supply (.array items.reverse) around
  | .object fields :: around, .closeObject => supply (.object fields.reverse) around
  | _, _ => none

def step : Reader → Token → Option Reader
  | .value around, t => beginValue around t
  | .first (.array items :: around), t =>
    if t = .closeArray then close (.array items :: around) t
    else beginValue (.array items :: around) t
  | .first around, t => if t = .closeObject then close around t else beginName around t
  | .name around, t => beginName around t
  | .colon around, t => if t = .colon then some (.value around) else none
  | .next (.array items :: around), t =>
    if t = .comma then some (.value (.array items :: around)) else close (.array items :: around) t
  | .next around, t => if t = .comma then some (.name around) else close around t
  | .done _, _ => none

def ofTokens? (ts : List Token) : Option Node :=
  match ts.foldlM step (.value []) with
  | some (.done root) => some root
  | _ => none

def ofText? (text : List Glyph) : Option Node := (tokens? text).bind ofTokens?

def maxDepth : Nat := 127

mutual

def value? (depth : Nat) : Node → Option Json
  | .null => some .null
  | .bool b => some (.bool b)
  | .number n => n.map .number
  | .string s => s.map .string
  | .array items =>
    match depth with
    | 0 => none
    | depth + 1 => (items? depth [] items).map .array
  | .object fields =>
    match depth with
    | 0 => none
    | depth + 1 => (fields? depth [] fields).map .object

def items? (depth : Nat) (done : List Json) : List Node → Option (List Json)
  | [] => some done.reverse
  | v :: vs =>
    match value? depth v with
    | some v => items? depth (v :: done) vs
    | none => none

def fields? (depth : Nat) (done : List (String × Json)) :
    List (Option String × Node) → Option (List (String × Json))
  | [] => some done
  | (name, v) :: fs =>
    match name, value? depth v with
    | some name, some v => fields? depth (setField name v done) fs
    | _, _ => none

end

/-- The tree under each known field. An array gives the fields in their order, and may stop early.
A known field that stands twice, a name without a value or an item too many is refused; unknown
fields are passed over. -/
def record? (known : List String) : Node → Option (List (Option Node))
  | .array items =>
    if items.length ≤ known.length then
      some (items.map some ++ List.replicate (known.length - items.length) none)
    else none
  | .object fields =>
    if fields.all fun f => f.1.isSome then
      known.mapM fun name =>
        match fields.filter fun f => f.1 = some name with
        | [] => some none
        | [f] => some (some f.2)
        | _ => none
    else none
  | _ => none

def text? : Node → Option String
  | .string s => s
  | _ => none

def int? (lo hi : Int) : Node → Option Int
  | .number (some (.integer n)) => if lo ≤ n ∧ n ≤ hi then some n else none
  | _ => none

def isNull : Node → Bool
  | .null => true
  | _ => false

end Node

def ofGlyphs? (text : List Glyph) : Option Json :=
  (Node.ofText? text).bind (Node.value? Node.maxDepth)

def ofText? (text : List Char) : Option Json := ofGlyphs? (text.map some)

def ofBytes? (bytes : List UInt8) : Option Json := ofGlyphs? (Text.Utf8.scan bytes)

end RpcServer.Json
