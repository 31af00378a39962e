import RpcServer.Json.Value
import RpcServer.Metrics.Sink

/-! The contents of a metrics store as JSON: a row for each label that was touched. -/

namespace RpcServer.Metrics

def number (x : Binary64) : Json := .number (.binary x)

def Summary.toJson (s : Summary) : Json :=
  .object [("count", .int s.count), ("sum", number s.sum), ("min", number s.min),
    ("max", number s.max), ("mean", .ofOption (s.mean?.map number))]

def rows {ν : Type} (d : Dict Labels ν) (f : ν → Json) : Json :=
  .array (d.entries.map fun e => .array (e.1.map .string ++ [f e.2]))

def count (n : Nat) : Json := .int n

def Store.toJson (s : Store) : Json :=
  .object [
    ("inflight", .array (s.inflight.entries.map fun e => .array [.string e.1, .int e.2])),
    ("requests", rows s.requests count), ("errors", rows s.errors count),
    ("request_size", rows s.requestSizes Summary.toJson),
    ("response_size", rows s.responseSizes Summary.toJson),
    ("duration_count", rows s.durations fun s => count s.count),
    ("total_errors", count s.totalErrors)]

end RpcServer.Metrics
