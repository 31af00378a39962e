import Mathlib.Tactic.Common
import RpcServer.Metrics.Sink
import RpcServer.Proofs.Dict

/-! Readings of a metrics store. Each is a sum over what was recorded, whatever the order. -/

namespace RpcServer.Metrics

open Dict

/-- A reading to which each recording adds its weight; times and sizes do not count. -/
structure Meter where
  read : Store → Int
  weight : Recording → Int
  read_empty : read .empty = 0
  read_record : ∀ s r, read (s.record r) = read s + weight r
  timeless : ∀ m op e d, weight (.duration m op e) = weight (.duration m op d)
  sizeless : ∀ m op a b, weight (.requestSize m op a) = weight (.requestSize m op b) ∧
    weight (.responseSize m op a) = weight (.responseSize m op b)

namespace Meter

def total (q : Meter) : List Recording → Int
  | [] => 0
  | r :: rs => q.weight r + q.total rs

@[simp] lemma total_nil (q : Meter) : q.total [] = 0 := rfl

@[simp] lemma total_cons (q : Meter) (r : Recording) (rs : List Recording) :
    q.total (r :: rs) = q.weight r + q.total rs := rfl

@[simp] lemma total_append (q : Meter) (rs ss : List Recording) :
    q.total (rs ++ ss) = q.total rs + q.total ss := by
  induction rs with
  | nil => exact (Int.zero_add _).symm
  | cons r rs ih => rw [List.cons_append, total_cons, total_cons, ih, Int.add_assoc]

lemma read_foldl (q : Meter) (rs : List Recording) (s : Store) :
    q.read (rs.foldl Store.record s) = q.read s + q.total rs := by
  induction rs generalizing s with
  | nil => simp
  | cons r rs ih =>
    rw [List.foldl_cons, ih, q.read_record, total_cons, Int.add_assoc]

def inflight (op : String) : Meter where
  read s := s.inflightOf op
  weight
    | .enter o => if op = o then 1 else 0
    | .leave o => if op = o then -1 else 0
    | _ => 0
  read_empty := rfl
  read_record s r := by
    cases r with
    | enter o =>
      simp only [Store.record, Store.inflightOf, getD_update]
      split
      · rename_i h
        rw [h]
      · rw [Int.add_zero]
    | leave o =>
      simp only [Store.record, Store.inflightOf, getD_update]
      split
      · rename_i h
        rw [h, Int.sub_eq_add_neg]
      · rw [Int.add_zero]
    | _ => exact (Int.add_zero _).symm
  timeless _ _ _ _ := rfl
  sizeless _ _ _ _ := ⟨rfl, rfl⟩

def tallied (d : Dict Labels Nat) (labels : Labels) : Int := ((d.get? labels).getD 0 : Nat)

lemma tallied_update (d : Dict Labels Nat) (k labels : Labels) :
    tallied (d.update k 0 (· + 1)) labels = tallied d labels + if labels = k then 1 else 0 := by
  simp only [tallied, getD_update]
  split
  · rename_i h
    rw [h]
    rfl
  · rw [Int.add_zero]

def requests (m op status : String) : Meter where
  read s := s.requestsOf m op status
  weight
    | .request n o t => if [m, op, status] = [n, o, t] then 1 else 0
    | _ => 0
  read_empty := rfl
  read_record s r := by
    cases r with
    | request n o t => exact tallied_update s.requests [n, o, t] [m, op, status]
    | _ => exact (Int.add_zero _).symm
  timeless _ _ _ _ := rfl
  sizeless _ _ _ _ := ⟨rfl, rfl⟩

def errors (m target reason : String) : Meter where
  read s := s.errorsOf m target reason
  weight
    | .failure n o t => if [m, target, reason] = [n, o, t] then 1 else 0
    | _ => 0
  read_empty := rfl
  read_record s r := by
    cases r with
    | failure n o t => exact tallied_update s.errors [n, o, t] [m, target, reason]
    | _ => exact (Int.add_zero _).symm
  timeless _ _ _ _ := rfl
  sizeless _ _ _ _ := ⟨rfl, rfl⟩

def counted (d : Dict Labels Summary) (labels : Labels) : Int :=
  ((d.get? labels).getD .empty).count

lemma counted_update (d : Dict Labels Summary) (k labels : Labels) (x : Binary64) :
    counted (d.update k .empty (·.record x)) labels =
      counted d labels + if labels = k then 1 else 0 := by
  simp only [counted, getD_update]
  split
  · rename_i h
    rw [h, Summary.count_record]
    rfl
  · rw [Int.add_zero]

def requestSizes (m op : String) : Meter where
  read s := (s.requestSizeOf m op).count
  weight
    | .requestSize n o _ => if [m, op] = [n, o] then 1 else 0
    | _ => 0
  read_empty := rfl
  read_record s r := by
    cases r with
    | requestSize n o b => exact counted_update s.requestSizes [n, o] [m, op] _
    | _ => exact (Int.add_zero _).symm
  timeless _ _ _ _ := rfl
  sizeless _ _ _ _ := ⟨rfl, rfl⟩

def responseSizes (m op : String) : Meter where
  read s := (s.responseSizeOf m op).count
  weight
    | .responseSize n o _ => if [m, op] = [n, o] then 1 else 0
    | _ => 0
  read_empty := rfl
  read_record s r := by
    cases r with
    | responseSize n o b => exact counted_update s.responseSizes [n, o] [m, op] _
    | _ => exact (Int.add_zero _).symm
  timeless _ _ _ _ := rfl
  sizeless _ _ _ _ := ⟨rfl, rfl⟩

def durations (m op : String) : Meter where
  read s := (s.durationOf m op).count
  weight
    | .duration n o _ => if [m, op] = [n, o] then 1 else 0
    | _ => 0
  read_empty := rfl
  read_record s r := by
    cases r with
    | duration n o e => exact counted_update s.durations [n, o] [m, op] _
    | _ => exact (Int.add_zero _).symm
  timeless _ _ _ _ := rfl
  sizeless _ _ _ _ := ⟨rfl, rfl⟩

end Meter

lemma Sink.record_memory (rs : List Recording) (s : Store) :
    rs.foldl Sink.record (.memory s) = .memory (rs.foldl Store.record s) := by
  induction rs generalizing s with
  | nil => rfl
  | cons r rs ih => exact ih (s.record r)

end RpcServer.Metrics
