import RpcServer.Json.Value
import RpcServer.Text.Digits
import RpcServer.Text.Hex
import RpcServer.Text.Utf8

/-! The lexemes of JSON texts. A character that is no UTF-8 is a hole. A string or number whose form
is right but whose value is not representable is a token without a value: whoever needs the value
refuses it, whoever skips it does not mind. -/

namespace RpcServer.Json

/-- A character of the text, or a hole where bytes were no UTF-8. -/
abbrev Glyph := Option Char

inductive Token where
  | openArray
  | closeArray
  | openObject
  | closeObject
  | comma
  | colon
  | null
  | bool (b : Bool)
  | number (n : Option Number)
  | string (s : Option String)
deriving DecidableEq

namespace Number

open Text

def wordLimit : Nat := Nat.pow 2 64

def gather (significand : Nat) (dropped : Nat) : List Char → Nat × Nat
  | [] => (significand, dropped)
  | c :: cs =>
    if dropped = 0 ∧ significand * 10 + digitValue c < wordLimit then
      gather (significand * 10 + digitValue c) 0 cs
    else gather significand (dropped + 1) cs

def gatherFraction (significand : Nat) (kept : Nat) : List Char → Nat × Nat
  | [] => (significand, kept)
  | c :: cs =>
    if significand * 10 + digitValue c < wordLimit then
      gatherFraction (significand * 10 + digitValue c) (kept + 1) cs
    else (significand, kept)

def powerOfTen (n : Nat) : Binary64 := Binary64.ofRatio (Nat.pow 10 n) 1

def scaleDown : Nat → Binary64 → Nat → Binary64
  | 0, x, _ => x
  | fuel + 1, x, n =>
    if n ≤ 308 then x.div (powerOfTen n)
    else if x = Binary64.zero then x
    else scaleDown fuel (x.div (powerOfTen 308)) (n - 308)

/-- `significand * 10 ^ exponent`, rounding the word, the power and their product or quotient in
turn; none past the largest finite number. -/
def scaled? (significand : Nat) (exponent : Int) : Option Binary64 :=
  let x := Binary64.ofNat significand
  if exponent < 0 then some (scaleDown 8 x (-exponent).toNat)
  else if exponent ≤ 308 then x.mul? (powerOfTen exponent.toNat)
  else if significand = 0 then some x
  else none

def signed (negative : Bool) (x : Binary64) : Binary64 := if negative then x.neg else x

def exponentLimit : Nat := Nat.pow 2 31

def clampExponent (e : Int) : Int := max (-2147483648) (min 2147483647 e)

def binary? (negative : Bool) (significand : Nat) (place : Int) (exponent : Option (Bool × List Char)) :
    Option Binary64 :=
  match exponent with
  | none => (scaled? significand place).map (signed negative)
  | some (down, ds) =>
    let e := decimalValue ds
    if exponentLimit ≤ e then
      if significand ≠ 0 ∧ !down then none else some (signed negative Binary64.zero)
    else
      let total := clampExponent (if down then place - e else place + e)
      (scaled? significand total).map (signed negative)

def whole (negative : Bool) (significand : Nat) : Number :=
  if !negative then .integer significand
  else if significand = 0 ∨ Nat.pow 2 63 < significand then .binary (Binary64.ofNat significand).neg
  else .integer (-significand)

def exponent? : List Char → Option (Option (Bool × List Char))
  | [] => some none
  | c :: cs =>
    if c = 'e' ∨ c = 'E' then
      let (down, ds) := match cs with
        | '+' :: ds => (false, ds)
        | '-' :: ds => (true, ds)
        | ds => (false, ds)
      if ds ≠ [] ∧ ds.all isDigit then some (some (down, ds)) else none
    else none

def ofLexeme? (s : List Char) : Option (Option Number) := do
  let (negative, s) := match s with
    | '-' :: r => (true, r)
    | r => (false, r)
  let int := s.takeWhile isDigit
  let rest := s.dropWhile isDigit
  guard (int ≠ [] ∧ (int.head? ≠ some '0' ∨ int.length = 1))
  let (significand, dropped) := gather 0 0 int
  match rest with
  | '.' :: r =>
    let fraction := r.takeWhile isDigit
    guard (fraction ≠ [])
    let exponent ← exponent? (r.dropWhile isDigit)
    let (significand, kept) := gatherFraction significand 0 fraction
    return (binary? negative significand (dropped - kept) exponent).map .binary
  | r =>
    let exponent ← exponent? r
    if exponent = none ∧ dropped = 0 then return some (whole negative significand)
    else return (binary? negative significand dropped exponent).map .binary

end Number

namespace StringBody

def isLead (n : Nat) : Bool := 0xd800 ≤ n && n ≤ 0xdbff

def isTrail (n : Nat) : Bool := 0xdc00 ≤ n && n ≤ 0xdfff

def plainEscape? (c : Char) : Option Char :=
  match c with
  | '"' => some '"'
  | '\\' => some '\\'
  | '/' => some '/'
  | 'b' => some '\x08'
  | 'f' => some '\x0c'
  | 'n' => some '\n'
  | 'r' => some '\r'
  | 't' => some '\t'
  | _ => none

/-- Reads the inside of a string. `done` is in reverse; `sound` says whether all so far has a
value; `half` is a lead half that awaits its trail. -/
def read (done : List Char) (sound : Bool) (half : Option Nat) :
    List Glyph → Option (Option String)
  | [] => some (if sound && half.isNone then some (String.ofList done.reverse) else none)
  | some '\\' :: some 'u' :: some a :: some b :: some c :: some d :: rest =>
    match Text.Hex.number? [a, b, c, d], half with
    | none, _ => none
    | some n, some lead =>
      if isTrail n then
        read (Char.ofNat (0x10000 + (lead - 0xd800) * 1024 + (n - 0xdc00)) :: done) sound none rest
      else read done false none rest
    | some n, none =>
      if isLead n then read done sound (some n) rest
      else if isTrail n then read done false none rest
      else read (Char.ofNat n :: done) sound none rest
  | some '\\' :: some c :: rest =>
    match plainEscape? c with
    | some d => read (d :: done) (sound && half.isNone) none rest
    | none => none
  | some c :: rest =>
    if c < ' ' ∨ c = '\\' then none else read (c :: done) (sound && half.isNone) none rest
  | none :: rest => read done false none rest

end StringBody

def stringBody? (s : List Glyph) : Option (Option String) := StringBody.read [] true none s

inductive Scan where
  | between
  | bare (lexeme : List Char)
  | quoted (body : List Glyph) (escaped : Bool)

def isBareChar (c : Char) : Bool :=
  ('0' ≤ c && c ≤ '9') || ('a' ≤ c && c ≤ 'z') || ('A' ≤ c && c ≤ 'Z') || c = '-' || c = '+' || c = '.'

def isSpace (c : Char) : Bool := c = ' ' || c = '\t' || c = '\n' || c = '\r'

def bareToken? (lexeme : List Char) : Option Token :=
  if lexeme = ['n', 'u', 'l', 'l'] then some .null
  else if lexeme = ['t', 'r', 'u', 'e'] then some (.bool true)
  else if lexeme = ['f', 'a', 'l', 's', 'e'] then some (.bool false)
  else (Number.ofLexeme? lexeme).map .number

def mark? (c : Char) : Option Token :=
  match c with
  | '[' => some .openArray
  | ']' => some .closeArray
  | '\x7b' => some .openObject
  | '\x7d' => some .closeObject
  | ',' => some .comma
  | ':' => some .colon
  | _ => none

def outside (done : List Token) (c : Char) : Option (List Token × Scan) :=
  if isSpace c then some (done, .between)
  else if c = '"' then some (done, .quoted [] false)
  else if isBareChar c then some (done, .bare [c])
  else (mark? c).map fun t => (t :: done, .between)

def scanStep : List Token × Scan → Glyph → Option (List Token × Scan)
  | (done, .quoted body true), g => some (done, .quoted (g :: body) false)
  | (done, .quoted body false), some '"' =>
    (stringBody? body.reverse).map fun s => (.string s :: done, .between)
  | (done, .quoted body false), g => some (done, .quoted (g :: body) (g = some '\\'))
  | (_, .between), none => none
  | (done, .between), some c => outside done c
  | (_, .bare _), none => none
  | (done, .bare lexeme), some c =>
    if isBareChar c then some (done, .bare (c :: lexeme))
    else (bareToken? lexeme.reverse).bind fun t => outside (t :: done) c

def scanEnd : List Token × Scan → Option (List Token)
  | (done, .between) => some done.reverse
  | (done, .bare lexeme) => (bareToken? lexeme.reverse).map fun t => (t :: done).reverse
  | (_, .quoted ..) => none

def tokens? (text : List Glyph) : Option (List Token) :=
  (text.foldlM scanStep ([], .between)).bind scanEnd

end RpcServer.Json
