import RpcServer.Number.Binary64

/-! The fewest decimal digits that read back as a binary number, and their layout. -/

namespace RpcServer

namespace BinaryFormat

/-- The value lies strictly below `10 ^ k` and not below `10 ^ (k - 1)`; the search climbs from `k`. -/
def magnitudeFrom (num den : Nat) : Nat → Int → Int
  | 0, k => k
  | fuel + 1, k =>
    let below := if 0 ≤ k then num < den * Nat.pow 10 k.toNat else num * Nat.pow 10 (-k).toNat < den
    if below then k else magnitudeFrom num den fuel (k + 1)

def magnitude (num den : Nat) : Int := magnitudeFrom num den 640 (-330)

structure Decimal where
  digits : Nat
  exponent : Int

def Decimal.ratio (d : Decimal) : Nat × Nat :=
  if 0 ≤ d.exponent then (d.digits * Nat.pow 10 d.exponent.toNat, 1)
  else (d.digits, Nat.pow 10 (-d.exponent).toNat)

def Decimal.distance (d : Decimal) (num den : Nat) : Nat × Nat :=
  let a := d.ratio.1 * den
  let b := num * d.ratio.2
  (if a ≤ b then b - a else a - b, d.ratio.2 * den)

variable (f : BinaryFormat)

def reads (bits : Nat) (d : Decimal) : Bool := f.nearest? d.ratio.1 d.ratio.2 = some bits

def withPlaces (bits num den : Nat) (top : Int) (places : Nat) : Option Decimal :=
  let k := top - places
  let low := if 0 ≤ k then num / (den * Nat.pow 10 k.toNat) else num * Nat.pow 10 (-k).toNat / den
  let down : Decimal := ⟨low, k⟩
  let up : Decimal := ⟨low + 1, k⟩
  match f.reads bits down, f.reads bits up with
  | true, true =>
    let a := down.distance num den
    let b := up.distance num den
    if a.1 * b.2 < b.1 * a.2 then some down
    else if b.1 * a.2 < a.1 * b.2 then some up
    else if low % 2 = 0 then some down else some up
  | true, false => some down
  | false, true => some up
  | false, false => none

def firstPlaces (bits num den : Nat) (top : Int) : Nat → Nat → Decimal
  | 0, _ => ⟨0, 0⟩
  | fuel + 1, places =>
    match f.withPlaces bits num den top places with
    | some d => d
    | none => firstPlaces bits num den top fuel (places + 1)

/-- The shortest decimal that reads as the size of the number, nearest to it among those. -/
def shortest (bits : Nat) : Decimal :=
  let r := f.ratio bits
  f.firstPlaces (f.size bits) r.1 r.2 (magnitude r.1 r.2) 17 1

end BinaryFormat

def stripZeros : List Char → List Char := fun s => (s.reverse.dropWhile (· = '0')).reverse

/-- The decimal exponents from which on numbers are positional, and from which on they are no more. -/
structure Layout where
  lowest : Int
  highest : Int

namespace Layout

def single : Layout := ⟨-6, 13⟩

def double : Layout := ⟨-5, 16⟩

def positional (ds : List Char) (point : Int) : List Char :=
  if point ≤ 0 then '0' :: '.' :: List.replicate (-point).toNat '0' ++ ds
  else
    let n := point.toNat
    if ds.length ≤ n then ds ++ List.replicate (n - ds.length) '0' ++ ['.', '0']
    else ds.take n ++ '.' :: ds.drop n

def exponential (ds : List Char) (exponent : Int) : List Char :=
  let mark := if 0 ≤ exponent then 'e' :: '+' :: (toString exponent).toList
    else 'e' :: (toString exponent).toList
  match ds with
  | [] => mark
  | [d] => d :: mark
  | d :: rest => d :: '.' :: rest ++ mark

def render (l : Layout) (d : BinaryFormat.Decimal) : List Char :=
  let all := (toString d.digits).toList
  let point := d.exponent + all.length
  let ds := stripZeros all
  if l.lowest ≤ point - 1 ∧ point - 1 < l.highest then positional ds point
  else exponential ds (point - 1)

end Layout

def BinaryFormat.render (f : BinaryFormat) (l : Layout) (bits : Nat) : List Char :=
  let size := if f.size bits = 0 then ['0', '.', '0'] else l.render (f.shortest bits)
  if f.isNegative bits then '-' :: size else size

def Binary64.render (x : Binary64) : List Char := BinaryFormat.double.render .double x.bits.toNat

def Binary32.render (x : Binary32) : List Char := BinaryFormat.single.render .single x.bits.toNat

end RpcServer
