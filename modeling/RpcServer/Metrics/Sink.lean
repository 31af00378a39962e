import RpcServer.Dict
import RpcServer.Metrics.Summary

/-! What the server counts and measures, and the store that keeps it by label. -/

namespace RpcServer.Metrics

def success : String := "success"
def error : String := "error"
def handlerError : String := "handler_error"
def serverError : String := "server_error"
def notFound : String := "not_found"
def methodNotAllowed : String := "method_not_allowed"

inductive Recording where
  | enter (operation : String)
  | leave (operation : String)
  | requestSize (method operation : String) (bytes : Nat)
  | responseSize (method operation : String) (bytes : Nat)
  | duration (method operation : String) (elapsed : Elapsed)
  | request (method operation status : String)
  | failure (method target reason : String)
deriving DecidableEq

abbrev Labels := List String

structure Store where
  inflight : Dict String Int
  requests : Dict Labels Nat
  errors : Dict Labels Nat
  requestSizes : Dict Labels Summary
  responseSizes : Dict Labels Summary
  durations : Dict Labels Summary

namespace Store

def empty : Store := ⟨.empty, .empty, .empty, .empty, .empty, .empty⟩

def record (s : Store) : Recording → Store
  | .enter op => { s with inflight := s.inflight.update op 0 (· + 1) }
  | .leave op => { s with inflight := s.inflight.update op 0 (· - 1) }
  | .requestSize m op n =>
    { s with requestSizes := s.requestSizes.update [m, op] .empty (·.record (.ofNat n)) }
  | .responseSize m op n =>
    { s with responseSizes := s.responseSizes.update [m, op] .empty (·.record (.ofNat n)) }
  | .duration m op e =>
    { s with durations := s.durations.update [m, op] .empty (·.record e.toSeconds) }
  | .request m op status => { s with requests := s.requests.update [m, op, status] 0 (· + 1) }
  | .failure m target reason => { s with errors := s.errors.update [m, target, reason] 0 (· + 1) }

def inflightOf (s : Store) (op : String) : Int := (s.inflight.get? op).getD 0

def requestsOf (s : Store) (m op status : String) : Nat := (s.requests.get? [m, op, status]).getD 0

def errorsOf (s : Store) (m target reason : String) : Nat :=
  (s.errors.get? [m, target, reason]).getD 0

def totalErrors (s : Store) : Nat := s.errors.entries.foldl (fun n e => n + e.2) 0

def requestSizeOf (s : Store) (m op : String) : Summary := (s.requestSizes.get? [m, op]).getD .empty

def responseSizeOf (s : Store) (m op : String) : Summary :=
  (s.responseSizes.get? [m, op]).getD .empty

def durationOf (s : Store) (m op : String) : Summary := (s.durations.get? [m, op]).getD .empty

end Store

inductive Sink where
  | memory (s : Store)
  | discard

namespace Sink

def record (s : Sink) (r : Recording) : Sink :=
  match s with
  | .memory s => .memory (s.record r)
  | .discard => .discard

def store? : Sink → Option Store
  | .memory s => some s
  | .discard => none

end Sink

end RpcServer.Metrics
