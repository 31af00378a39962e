import RpcServer.Number.Binary64
import RpcServer.Text.Digits

/-! Decimal texts, read as the nearest number. -/

namespace RpcServer.Binary64

open Text

/-- Powers of ten past this leave the range of the numbers. -/
def decimalRange : Int := 400

def ofDigits? (ds : List Char) (exponent : Int) : Option Binary64 :=
  let m := decimalValue ds
  if m = 0 ∨ exponent + ds.length < -decimalRange then some zero
  else if decimalRange < exponent then none
  else if exponent < 0 then ofRatio? m (Nat.pow 10 (-exponent).toNat)
  else ofRatio? (m * Nat.pow 10 exponent.toNat) 1

def cutSign : List Char → Bool × List Char
  | '-' :: s => (true, s)
  | '+' :: s => (false, s)
  | s => (false, s)

def exponent? : List Char → Option Int
  | [] => some 0
  | c :: s =>
    let (negative, ds) := cutSign s
    if (c = 'e' ∨ c = 'E') ∧ ds ≠ [] ∧ ds.all isDigit then
      some (if negative then -(decimalValue ds : Int) else decimalValue ds)
    else none

def ofUnsigned? (s : List Char) : Option Binary64 := do
  let int := s.takeWhile isDigit
  let (fraction, rest) := match s.dropWhile isDigit with
    | '.' :: r => (r.takeWhile isDigit, r.dropWhile isDigit)
    | r => ([], r)
  let e ← exponent? rest
  if int ++ fraction = [] then none
  else some ((ofDigits? (int ++ fraction) (e - fraction.length)).getD infinity)

def ofDecimal? (s : List Char) : Option Binary64 :=
  let (negative, r) := cutSign s
  let name := r.map Char.toLower
  let size :=
    if name = "nan".toList then some nan
    else if name = "inf".toList ∨ name = "infinity".toList then some infinity
    else ofUnsigned? r
  size.map fun x => if negative then x.neg else x

end RpcServer.Binary64
