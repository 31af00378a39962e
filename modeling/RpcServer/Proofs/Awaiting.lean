import RpcServer.Proofs.Doneness

/-! To wait for a context to be done, and to ask whether it is. A waiter is woken at the first instant
at which who asks would hear so. It may be told of the deadline where who asks is told of the
cancellation, if both have come by then. -/

namespace RpcServer.World

variable {w : World} {c : Context} {s : Signal} {t u : Instant} {r : Resolution}

structure FirstDone (w : World) (c : Context) (t : Instant) : Prop where
  ahead : w.now ≤ t
  done : (w.moveTo t).done? c ≠ none
  first : ∀ u, w.now ≤ u → u < t → (w.moveTo u).done? c = none

lemma FirstDone.unique (ht : w.FirstDone c t) (hu : w.FirstDone c u) : t = u := by
  rcases Int.lt_trichotomy t u with h | h | h
  · exact absurd (hu.first t ht.ahead h) ht.done
  · exact h
  · exact absurd (ht.first u hu.ahead h) hu.done

end RpcServer.World
