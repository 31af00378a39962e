/-! Binary formats of floating-point numbers, by exact arithmetic on the values. -/

namespace RpcServer

/-- A significand has `precision` bits, the least positive number is `2 ^ -units`, and what has the
biased exponent `top` is not finite. -/
structure BinaryFormat where
  precision : Nat
  units : Nat
  top : Nat

namespace BinaryFormat

def single : BinaryFormat := ⟨24, 149, 255⟩

def double : BinaryFormat := ⟨53, 1074, 2047⟩

variable (f : BinaryFormat)

def hidden : Nat := Nat.pow 2 (f.precision - 1)

def biased (bits : Nat) : Nat := bits / f.hidden % (f.top + 1)

def isFinite (bits : Nat) : Bool := f.biased bits ≠ f.top

def size (bits : Nat) : Nat := bits % (f.hidden * (f.top + 1))

def isNegative (bits : Nat) : Bool := f.size bits ≠ bits

def ratio (bits : Nat) : Nat × Nat :=
  let fraction := bits % f.hidden
  let significand := if f.biased bits = 0 then fraction else fraction + f.hidden
  (significand * Nat.pow 2 (f.biased bits - 1), Nat.pow 2 f.units)

def roundHalfEven (num den : Nat) : Nat :=
  let q := num / den
  let r := num % den
  if 2 * r < den then q else if den < 2 * r then q + 1 else if q % 2 = 0 then q else q + 1

def nearest? (num den : Nat) : Option Nat :=
  let units := num * Nat.pow 2 f.units
  -- counted in units, the value has at most `precision` bits at this scale
  let s := (units / den).log2 - (f.precision - 1)
  let m := roundHalfEven units (den * Nat.pow 2 s)
  let (m, s) := if m = Nat.pow 2 f.precision then (f.hidden, s + 1) else (m, s)
  if m < f.hidden then some m
  else if s + 1 < f.top then some ((s + 1) * f.hidden + (m - f.hidden))
  else none

end BinaryFormat

end RpcServer
