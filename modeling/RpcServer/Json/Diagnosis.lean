import RpcServer.Json.Fault
import RpcServer.Json.Node
import RpcServer.Json.Printer
import RpcServer.Text.Inspection

/-! The first fault of a text that should be JSON, found by reading it from the front. A value that
is needed has to be representable; one that is skipped only has to have the right form. -/

namespace RpcServer.Json.Diagnosis

open Text

abbrev Reading := Except Fault (List Char)

def fail (c : Cause) (rest : List Char) : Reading := .error ⟨c, rest⟩

def failNext (c : Cause) (rest : List Char) : Reading := fail c rest.tail

def chars (bytes : List UInt8) : List Char := bytes.map fun b => Char.ofNat b.toNat

def bytes (s : List Char) : List UInt8 := s.map fun c => UInt8.ofNat c.toNat

def skipSpace (s : List Char) : List Char := s.dropWhile isSpace

def upTo (s rest : List Char) : List Char := s.take (s.length - rest.length)

def word : List Char → List Char → Reading
  | [], s => .ok s
  | _ :: _, [] => fail .endOfValue []
  | w :: ws, c :: s => if c = w then word ws s else fail .noWord s

def cutNumber (needed : Bool) : Cause := if needed then .endOfValue else .badNumber

def exponent (needed : Bool) (s : List Char) : Reading :=
  let digits := match s with
    | '+' :: t => t
    | '-' :: t => t
    | t => t
  match digits with
  | [] => fail (cutNumber needed) []
  | c :: t => if isDigit c then .ok (t.dropWhile isDigit) else fail .badNumber t

def optionalExponent (needed : Bool) (s : List Char) : Reading :=
  match s with
  | 'e' :: t => exponent needed t
  | 'E' :: t => exponent needed t
  | t => .ok t

def fraction (needed : Bool) (s : List Char) : Reading :=
  match s with
  | [] => fail (cutNumber needed) []
  | c :: t =>
    if isDigit c then optionalExponent needed (t.dropWhile isDigit) else failNext .badNumber s

def afterWhole (needed : Bool) (s : List Char) : Reading :=
  match s with
  | '.' :: t => fraction needed t
  | t => optionalExponent needed t

def unsigned (needed : Bool) (s : List Char) : Reading :=
  match s with
  | [] => fail (cutNumber needed) []
  | '0' :: t => if t.head?.any isDigit then failNext .badNumber t else afterWhole needed t
  | c :: t => if isDigit c then afterWhole needed (t.dropWhile isDigit) else fail .badNumber t

def number (needed : Bool) (s : List Char) : Reading :=
  let size := match s with
    | '-' :: t => t
    | t => t
  match unsigned needed size with
  | .ok rest =>
    if needed ∧ Number.ofLexeme? (upTo s rest) = some none then fail .largeNumber rest
    else .ok rest
  | .error f => .error f

def isUtf8 (s : List Char) : Bool := (Utf8.decode? (bytes s)).isSome

def string (needed : Bool) (body : List Char) : List Char → Reading
  | [] => fail .endOfString []
  | ['\\'] => fail .endOfString []
  | '"' :: s => if needed && !isUtf8 body.reverse then fail .badCodePoint s else .ok s
  | '\\' :: 'u' :: a :: b :: c :: d :: s =>
    match Hex.number? [a, b, c, d] with
    | none => fail .badEscape s
    | some n =>
      if !needed then string needed body s
      else if StringBody.isTrail n then fail .loneHalf s
      else if StringBody.isLead n then
        match s with
        | '\\' :: 'u' :: e :: f :: g :: h :: t =>
          match Hex.number? [e, f, g, h] with
          | none => fail .badEscape t
          | some m => if StringBody.isTrail m then string needed ('u' :: body) t else fail .loneHalf t
        | [] => fail .endOfString []
        | ['\\'] => fail .endOfString []
        | '\\' :: 'u' :: _ => fail .endOfString []
        | '\\' :: _ :: t => fail .missingHalf t
        | _ :: t => fail .missingHalf t
      else string needed ('u' :: body) s
  | '\\' :: 'u' :: _ => fail .endOfString []
  | '\\' :: c :: s =>
    if (StringBody.plainEscape? c).isSome then string needed (c :: body) s else fail .badEscape s
  | c :: s =>
    if c < ' ' then fail .controlCharacter (if needed then s else c :: s)
    else string needed (c :: body) s

def colon (s : List Char) : Reading :=
  match skipSpace s with
  | [] => fail .endOfObject []
  | ':' :: t => .ok t
  | _ :: t => fail .noColon t

/-- From the end of an item to the start of the next one, or to the end of the list. `first` says
that there is no item yet. The answer tells whether an item follows. -/
def nextItem (first : Bool) (s : List Char) : Except Fault (Bool × List Char) :=
  match skipSpace s with
  | [] => .error ⟨.endOfList, []⟩
  | ']' :: t => .ok (false, t)
  | c :: t =>
    if first then .ok (true, c :: t)
    else if c = ',' then
      match skipSpace t with
      | [] => .error ⟨.endOfValue, []⟩
      | ']' :: u => .error ⟨.trailingComma, u⟩
      | u => .ok (true, u)
    else .error ⟨.noListEnd, t⟩

def nextMember (first : Bool) (s : List Char) : Except Fault (Bool × List Char) :=
  match skipSpace s with
  | [] => .error ⟨.endOfObject, []⟩
  | '\x7d' :: t => .ok (false, t)
  | c :: t =>
    if first then if c = '"' then .ok (true, t) else .error ⟨.nameNotText, t⟩
    else if c = ',' then
      match skipSpace t with
      | [] => .error ⟨.endOfValue, []⟩
      | '"' :: u => .ok (true, u)
      | '\x7d' :: u => .error ⟨.trailingComma, u⟩
      | _ :: u => .error ⟨.nameNotText, u⟩
    else .error ⟨.noObjectEnd, t⟩

def name (needed : Bool) (s : List Char) : Reading :=
  match string needed [] s with
  | .ok rest => colon rest
  | .error f => .error f

mutual

def value (needed : Bool) : (fuel depth : Nat) → List Char → Reading
  | 0, _, s => failNext .noValue s
  | fuel + 1, depth, s =>
    match skipSpace s with
    | [] => fail .endOfValue []
    | 'n' :: t => word ['u', 'l', 'l'] t
    | 't' :: t => word ['r', 'u', 'e'] t
    | 'f' :: t => word ['a', 'l', 's', 'e'] t
    | '"' :: t => string needed [] t
    | '[' :: t =>
      match depth with
      | 0 => fail .tooDeep t
      | depth + 1 => items needed fuel depth true t
    | '\x7b' :: t =>
      match depth with
      | 0 => fail .tooDeep t
      | depth + 1 => members needed fuel depth true t
    | c :: t => if c = '-' || isDigit c then number needed (c :: t) else fail .noValue t

def items (needed : Bool) : (fuel depth : Nat) → (first : Bool) → List Char → Reading
  | 0, _, _, s => failNext .noValue s
  | fuel + 1, depth, first, s =>
    match nextItem first s with
    | .error f => .error f
    | .ok (false, rest) => .ok rest
    | .ok (true, rest) =>
      match value needed fuel depth rest with
      | .error f => .error f
      | .ok rest => items needed fuel depth false rest

def members (needed : Bool) : (fuel depth : Nat) → (first : Bool) → List Char → Reading
  | 0, _, _, s => failNext .noValue s
  | fuel + 1, depth, first, s =>
    match nextMember first s with
    | .error f => .error f
    | .ok (false, rest) => .ok rest
    | .ok (true, rest) =>
      match name needed rest with
      | .error f => .error f
      | .ok rest =>
        match value needed fuel depth rest with
        | .error f => .error f
        | .ok rest => members needed fuel depth false rest

end

/-- Each byte starts at most one item and one value. -/
def fuelFor (s : List Char) : Nat := 2 * s.length + 2

def neededValue (s : List Char) : Reading := value true (fuelFor s) Node.maxDepth s

def skippedValue (s : List Char) : Reading := value false (fuelFor s) s.length s

def finish (r : Reading) : Option Fault :=
  match r with
  | .error f => some f
  | .ok rest => (skipSpace rest).tail? |>.map fun t => ⟨.trailingText, t⟩

def described : Json → String
  | .null => "null"
  | .bool b => "boolean " ++ Cause.marked (String.ofList (renderBool b))
  | .number (.integer n) => "integer " ++ Cause.marked (toString n)
  | .number (.binary x) =>
    "floating point " ++ Cause.marked (String.ofList (Number.render (.binary x)))
  | .string s => "string " ++ String.ofList (quoted s.toList)
  | .array _ => "sequence"
  | .object _ => "map"

def read (s rest : List Char) : Json := (ofBytes? (bytes (upTo s rest))).getD .null

/-- The fault of a value that is of another type than expected. Containers are not entered. -/
def mismatch (expected : String) (s : List Char) : Reading :=
  match s with
  | '[' :: _ => fail (.wrongType (described (.array [])) expected) s
  | '\x7b' :: _ => fail (.wrongType (described (.object [])) expected) s
  | _ =>
    match neededValue s with
    | .ok rest => fail (.wrongType (described (read s rest)) expected) rest
    | .error f => .error f

def neededText (expected : String) (s : List Char) : Reading :=
  match skipSpace s with
  | [] => fail .endOfValue []
  | '"' :: t => string true [] t
  | t => mismatch expected t

def neededNatural (expected : String) (bound : Nat) (s : List Char) : Reading :=
  match skipSpace s with
  | [] => fail .endOfValue []
  | c :: t =>
    if c = '-' || isDigit c then
      match number true (c :: t) with
      | .error f => .error f
      | .ok rest =>
        match read (c :: t) rest with
        | .number (.integer n) =>
          if 0 ≤ n ∧ n < bound then .ok rest
          else fail (.wrongValue (described (.int n)) expected) rest
        | v => fail (.wrongType (described v) expected) rest
    else mismatch expected (c :: t)

end RpcServer.Json.Diagnosis

namespace RpcServer.Json

def faultMessage (text : List UInt8) (f : Option Fault) : String :=
  (f.map fun f => f.message (Diagnosis.chars text)).getD ""

end RpcServer.Json
