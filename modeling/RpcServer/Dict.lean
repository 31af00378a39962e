/-! Finite maps with their keys in ascending order. -/

namespace RpcServer

variable {κ ν : Type} [Ord κ]

namespace Dict

def Ascending (entries : List (κ × ν)) : Prop :=
  entries.Pairwise fun a b => compare a.1 b.1 = .lt

def place (k : κ) (v : ν) : List (κ × ν) → List (κ × ν)
  | [] => [(k, v)]
  | e :: es =>
    match compare k e.1 with
    | .lt => (k, v) :: e :: es
    | .eq => (k, v) :: es
    | .gt => e :: place k v es

theorem mem_place {k : κ} {v : ν} {es : List (κ × ν)} {e : κ × ν} (h : e ∈ place k v es) :
    e = (k, v) ∨ e ∈ es := by
  induction es with
  | nil => simpa [place] using h
  | cons d ds ih =>
    unfold place at h
    split at h
    · simpa using h
    · rcases List.mem_cons.mp h with h | h
      · exact .inl h
      · exact .inr (List.mem_cons_of_mem d h)
    · rcases List.mem_cons.mp h with h | h
      · exact .inr (by simp [h])
      · exact (ih h).imp_right (List.mem_cons_of_mem d)

theorem ascending_place [Std.TransOrd κ] [Std.LawfulEqOrd κ] (k : κ) (v : ν)
    {es : List (κ × ν)} (h : Ascending es) : Ascending (place k v es) := by
  induction es with
  | nil => simp [place, Ascending]
  | cons e es ih =>
    have he : ∀ d ∈ es, compare e.1 d.1 = .lt := fun d hd => List.rel_of_pairwise_cons h hd
    have hes := h.of_cons
    unfold place
    split
    · rename_i hk
      refine List.Pairwise.cons ?_ h
      intro d hd
      rcases List.mem_cons.mp hd with rfl | hd
      · exact hk
      · exact Std.TransCmp.lt_trans hk (he d hd)
    · rename_i hk
      have : k = e.1 := Std.LawfulEqCmp.eq_of_compare hk
      refine List.Pairwise.cons ?_ hes
      intro d hd
      simpa [this] using he d hd
    · rename_i hk
      refine List.Pairwise.cons ?_ (ih hes)
      intro d hd
      rcases mem_place hd with rfl | hd
      · exact Std.OrientedCmp.lt_of_gt hk
      · exact he d hd

end Dict

structure Dict (κ ν : Type) [Ord κ] where
  entries : List (κ × ν)
  ascending : Dict.Ascending entries

namespace Dict

def empty : Dict κ ν := ⟨[], .nil⟩

instance : Inhabited (Dict κ ν) := ⟨empty⟩

def isEmpty (d : Dict κ ν) : Bool := d.entries.isEmpty

def size (d : Dict κ ν) : Nat := d.entries.length

def get? (d : Dict κ ν) (k : κ) : Option ν :=
  (d.entries.find? fun e => compare k e.1 = .eq).map (·.2)

section

variable [Std.TransOrd κ] [Std.LawfulEqOrd κ]

def insert (d : Dict κ ν) (k : κ) (v : ν) : Dict κ ν :=
  ⟨place k v d.entries, ascending_place k v d.ascending⟩

def ofList (entries : List (κ × ν)) : Dict κ ν :=
  entries.foldl (fun d e => d.insert e.1 e.2) empty

def update (d : Dict κ ν) (k : κ) (initial : ν) (f : ν → ν) : Dict κ ν :=
  d.insert k (f ((d.get? k).getD initial))

end

theorem ext {d e : Dict κ ν} (h : d.entries = e.entries) : d = e := by
  cases d
  cases e
  simpa using h

instance [DecidableEq κ] [DecidableEq ν] : DecidableEq (Dict κ ν) := fun d e =>
  decidable_of_iff (d.entries = e.entries) ⟨ext, fun h => h ▸ rfl⟩

end Dict

end RpcServer
