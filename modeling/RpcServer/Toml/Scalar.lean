import RpcServer.Number.Decimal
import RpcServer.Text.Digits
import RpcServer.Toml.Scan
import RpcServer.Toml.Value

/-! Numbers, dates and times of TOML. -/

namespace RpcServer.Toml

open Text (isDigit)

def digitRun (p : Char → Bool) : List Char → List Char × List Char
  | '_' :: c :: s =>
    if p c then
      let (ds, rest) := digitRun p s
      (c :: ds, rest)
    else ([], '_' :: c :: s)
  | c :: s =>
    if p c then
      let (ds, rest) := digitRun p s
      (c :: ds, rest)
    else ([], c :: s)
  | [] => ([], [])

def digits? (p : Char → Bool) : List Char → Option (List Char × List Char)
  | c :: s =>
    if p c then
      let (ds, rest) := digitRun p s
      some (c :: ds, rest)
    else none
  | [] => none

def value (radix : Nat) (ds : List Char) : Nat :=
  ds.foldl (fun n c => n * radix + (Text.Hex.value? c).getD 0) 0

def sign : List Char → Bool × List Char
  | '-' :: s => (true, s)
  | '+' :: s => (false, s)
  | s => (false, s)

def decimal? (s : List Char) : Option (Bool × List Char × List Char) :=
  let (negative, s) := sign s
  match s with
  | '0' :: rest => some (negative, ['0'], rest)
  | s => (digits? isDigit s).map fun r => (negative, r.1, r.2)

def integer (n : Int) : Option Value :=
  if -Int.pow 2 63 ≤ n ∧ n < Int.pow 2 63 then some (.integer n) else none

def inRadix? (radix : Nat) (s : List Char) : Option (Value × List Char) := do
  let (ds, rest) ← digits? (fun c => (Text.Hex.value? c).any (· < radix)) s
  let v ← integer (value radix ds)
  return (v, rest)

def exponent? : List Char → Option (Int × List Char)
  | c :: s =>
    if c = 'e' ∨ c = 'E' then
      let (negative, s) := sign s
      (digits? isDigit s).map fun r =>
        (if negative then -(value 10 r.1 : Int) else value 10 r.1, r.2)
    else none
  | [] => none

def float? (s : List Char) : Option (Value × List Char) := do
  let (negative, int, rest) ← decimal? s
  let (fraction, rest) ← match rest with
    | '.' :: r => (digits? isDigit r).map fun r => (some r.1, r.2)
    | r => some (none, r)
  let (exponent, rest) ← match exponent? rest with
    | some (e, r) => some (some e, r)
    | none => some (none, rest)
  if fraction.isNone && exponent.isNone then none
  else
    let digits := int ++ fraction.getD []
    let scale := exponent.getD 0 - (fraction.getD []).length
    if negative || (Binary64.ofDigits? digits scale).isSome then some (.float, rest) else none

def special? (s : List Char) : Option (Value × List Char) :=
  match (sign s).2 with
  | 'i' :: 'n' :: 'f' :: r => some (.float, r)
  | 'n' :: 'a' :: 'n' :: r => some (.float, r)
  | _ => none

def integer? : List Char → Option (Value × List Char)
  | '0' :: 'x' :: s => inRadix? 16 s
  | '0' :: 'o' :: s => inRadix? 8 s
  | '0' :: 'b' :: s => inRadix? 2 s
  | s => do
    let (negative, ds, rest) ← decimal? s
    let n : Int := value 10 ds
    let v ← integer (if negative then -n else n)
    return (v, rest)

def two? (lo hi : Nat) : List Char → Option (Nat × List Char)
  | a :: b :: s =>
    if isDigit a ∧ isDigit b ∧ lo ≤ value 10 [a, b] ∧ value 10 [a, b] ≤ hi then
      some (value 10 [a, b], s)
    else none
  | _ => none

def mark? (c : Char) : List Char → Option (List Char)
  | d :: s => if d = c then some s else none
  | [] => none

def isLeapYear (y : Nat) : Bool := y % 4 = 0 && (y % 100 ≠ 0 || y % 400 = 0)

def daysIn (year month : Nat) : Nat :=
  if month = 2 then (if isLeapYear year then 29 else 28)
  else if month = 4 ∨ month = 6 ∨ month = 9 ∨ month = 11 then 30
  else 31

def date? : List Char → Option (List Char)
  | a :: b :: c :: d :: s => do
    guard ([a, b, c, d].all isDigit)
    let s ← mark? '-' s
    let (month, s) ← two? 1 12 s
    let s ← mark? '-' s
    let (_, s) ← two? 1 (daysIn (value 10 [a, b, c, d]) month) s
    return s
  | _ => none

def time? (s : List Char) : Option (List Char) := do
  let (_, s) ← two? 0 23 s
  let s ← mark? ':' s
  let (_, s) ← two? 0 59 s
  let s ← mark? ':' s
  let (_, s) ← two? 0 60 s
  match s with
  | '.' :: r =>
    guard (r.takeWhile isDigit ≠ [])
    return r.dropWhile isDigit
  | s => return s

def offset (s : List Char) : List Char :=
  match s with
  | 'Z' :: r => r
  | 'z' :: r => r
  | c :: r =>
    if c = '+' ∨ c = '-' then
      (do
        let (_, r) ← two? 0 23 r
        let r ← mark? ':' r
        let (_, r) ← two? 0 59 r
        return r : Option (List Char)).getD s
    else s
  | [] => []

def moment? (s : List Char) : Option (Value × List Char) :=
  match date? s with
  | some rest =>
    match rest with
    | c :: r =>
      if c = 'T' ∨ c = 't' ∨ c = ' ' then
        match time? r with
        | some r => some (.moment, offset r)
        | none => some (.moment, rest)
      else some (.moment, rest)
    | [] => some (.moment, [])
  | none => (time? s).map fun r => (.moment, r)

def bool? : List Char → Option (Value × List Char)
  | 't' :: 'r' :: 'u' :: 'e' :: s => some (.bool true, s)
  | 'f' :: 'a' :: 'l' :: 's' :: 'e' :: s => some (.bool false, s)
  | _ => none

def text? (s : List Char) : Option (Value × List Char) :=
  (string? s).map fun r => (.string (String.ofList r.1), r.2)

def scalar? (s : List Char) : Option (Value × List Char) :=
  ((((text? s).or (bool? s)).or (moment? s)).or (float? s)).or ((special? s).or (integer? s))

end RpcServer.Toml
