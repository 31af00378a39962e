import RpcServer.Header.Name
import RpcServer.Header.Value
import RpcServer.Text.Blank

/-! Header fields in order. A name may stand more than once; the order between different names
carries no meaning. -/

namespace RpcServer

open Header

structure Headers where
  entries : List (Name × Value)
deriving DecidableEq

namespace Headers

def empty : Headers := ⟨[]⟩

instance : Inhabited Headers := ⟨empty⟩

def getAll (h : Headers) (n : Name) : List Value :=
  (h.entries.filter fun e => e.1 = n).map (·.2)

def get? (h : Headers) (n : Name) : Option Value := (h.getAll n).head?

def contains (h : Headers) (n : Name) : Bool := h.entries.any fun e => e.1 = n

def remove (h : Headers) (n : Name) : Headers := ⟨h.entries.filter fun e => e.1 ≠ n⟩

def append (h : Headers) (n : Name) (v : Value) : Headers := ⟨h.entries ++ [(n, v)]⟩

def insert (h : Headers) (n : Name) (v : Value) : Headers := (h.remove n).append n v

def extend (h other : Headers) : Headers :=
  ⟨h.entries.filter (fun e => !other.contains e.1) ++ other.entries⟩

def text? (h : Headers) (n : Name) : Option (List Char) :=
  ((h.get? n).bind Value.text?).map Text.trim

theorem getAll_append_self (h : Headers) (n : Name) (v : Value) :
    (h.append n v).getAll n = h.getAll n ++ [v] := by
  simp [append, getAll, List.filter_append]

theorem getAll_append_ne (h : Headers) {n m : Name} (v : Value) (hm : m ≠ n) :
    (h.append n v).getAll m = h.getAll m := by
  simp [append, getAll, List.filter_append, hm.symm]

theorem getAll_remove_self (h : Headers) (n : Name) : (h.remove n).getAll n = [] := by
  simp [remove, getAll, List.filter_filter]

theorem getAll_remove_ne (h : Headers) {n m : Name} (hm : m ≠ n) :
    (h.remove n).getAll m = h.getAll m := by
  simp only [remove, getAll, List.filter_filter]
  congr 1
  apply List.filter_congr
  intro e _
  by_cases he : e.1 = m <;> simp [he, hm]

theorem getAll_insert_self (h : Headers) (n : Name) (v : Value) :
    (h.insert n v).getAll n = [v] := by
  simp [insert, getAll_append_self, getAll_remove_self]

theorem getAll_insert_ne (h : Headers) {n m : Name} (v : Value) (hm : m ≠ n) :
    (h.insert n v).getAll m = h.getAll m := by
  simp [insert, getAll_append_ne _ _ hm, getAll_remove_ne _ hm]

end Headers

end RpcServer
