import RpcServer.Number.Binary64

/-! Running aggregates of observed values. -/

namespace RpcServer.Metrics

structure Summary where
  count : Nat
  sum : Binary64
  min : Binary64
  max : Binary64
deriving DecidableEq

namespace Summary

def empty : Summary := ⟨0, .zero, .zero, .zero⟩

def record (s : Summary) (x : Binary64) : Summary :=
  if s.count = 0 then ⟨1, s.sum.add x, x, x⟩
  else ⟨s.count + 1, s.sum.add x, s.min.min x, s.max.max x⟩

def mean? (s : Summary) : Option Binary64 :=
  if s.count = 0 then none else some (s.sum.div (.ofNat s.count))

theorem count_record (s : Summary) (x : Binary64) : (s.record x).count = s.count + 1 := by
  unfold record
  split
  · simp_all
  · rfl

end Summary

structure Elapsed where
  seconds : Nat
  nanos : Nat
deriving DecidableEq

namespace Elapsed

def ofMillis (ms : Nat) : Elapsed := ⟨ms / 1000, ms % 1000 * 1000000⟩

/-- Seconds as one number: the whole ones and the billionths are rounded each, then their sum. -/
def toSeconds (e : Elapsed) : Binary64 :=
  (Binary64.ofNat (e.seconds + e.nanos / 1000000000)).add
    ((Binary64.ofNat (e.nanos % 1000000000)).div (.ofNat 1000000000))

end Elapsed

end RpcServer.Metrics
