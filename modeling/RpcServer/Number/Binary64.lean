import RpcServer.Number.Format

/-! Floating-point numbers of 32 and of 64 bits. Sums, products, quotients and the order are those of
numbers that are not negative. -/

namespace RpcServer

structure Binary64 where
  bits : UInt64
deriving DecidableEq

namespace Binary64

def zero : Binary64 := ⟨0⟩

def isFinite (x : Binary64) : Bool := BinaryFormat.double.isFinite x.bits.toNat

def neg (x : Binary64) : Binary64 := ⟨x.bits ^^^ 0x8000000000000000⟩

def infinity : Binary64 := ⟨0x7ff0000000000000⟩

def nan : Binary64 := ⟨0x7ff8000000000000⟩

def ratio (x : Binary64) : Nat × Nat := BinaryFormat.double.ratio x.bits.toNat

def ofRatio? (num den : Nat) : Option Binary64 :=
  (BinaryFormat.double.nearest? num den).map fun bits => ⟨UInt64.ofNat bits⟩

def ofRatio (num den : Nat) : Binary64 := (ofRatio? num den).getD infinity

def ofNat (n : Nat) : Binary64 := ofRatio n 1

def add (x y : Binary64) : Binary64 := ofRatio (x.ratio.1 + y.ratio.1) (Nat.pow 2 1074)

def mul? (x y : Binary64) : Option Binary64 :=
  ofRatio? (x.ratio.1 * y.ratio.1) (x.ratio.2 * y.ratio.2)

def div (x y : Binary64) : Binary64 := ofRatio (x.ratio.1 * y.ratio.2) (x.ratio.2 * y.ratio.1)

def le (x y : Binary64) : Bool := x.bits ≤ y.bits

def min (x y : Binary64) : Binary64 := if le x y then x else y

def max (x y : Binary64) : Binary64 := if le x y then y else x

end Binary64

structure Binary32 where
  bits : UInt32
deriving DecidableEq

namespace Binary32

def isFinite (x : Binary32) : Bool := BinaryFormat.single.isFinite x.bits.toNat

def widen (x : Binary32) : Binary64 :=
  let r := BinaryFormat.single.ratio x.bits.toNat
  let size := Binary64.ofRatio r.1 r.2
  if BinaryFormat.single.isNegative x.bits.toNat then size.neg else size

end Binary32

end RpcServer
