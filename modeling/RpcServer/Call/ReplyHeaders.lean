import RpcServer.Headers

/-! The reply headers of a call, which handler and server write in turn. A writer that panics while
it holds them leaves them poisoned; they stay readable and writable as they were. -/

namespace RpcServer

open Header

structure ReplyHeaders where
  fields : Headers
  poisoned : Bool
deriving DecidableEq

inductive HeaderWrite where
  | set (name value : String)
  | append (name : Name) (value : Value)
  | remove (name : Name)
  | poison
deriving DecidableEq

namespace ReplyHeaders

def empty : ReplyHeaders := ⟨.empty, false⟩

instance : Inhabited ReplyHeaders := ⟨empty⟩

inductive Refusal where
  | name (text : String)
  | value (name : Name)
deriving DecidableEq

def field (name value : String) : Except Refusal (Name × Value) :=
  match Name.parse? name with
  | none => .error (.name name)
  | some n =>
    match Value.ofText? value.toList with
    | none => .error (.value n)
    | some v => .ok (n, v)

def set (r : ReplyHeaders) (name value : String) : ReplyHeaders :=
  match field name value with
  | .ok (n, v) => { r with fields := r.fields.insert n v }
  | .error _ => r

def write (r : ReplyHeaders) : HeaderWrite → ReplyHeaders
  | .set name value => r.set name value
  | .append n v => { r with fields := r.fields.append n v }
  | .remove n => { r with fields := r.fields.remove n }
  | .poison => { r with poisoned := true }

def refusal? : HeaderWrite → Option Refusal
  | .set name value =>
    match field name value with
    | .error e => some e
    | .ok _ => none
  | _ => none

theorem set_of_error {r : ReplyHeaders} {name value : String} {e : Refusal}
    (h : field name value = .error e) : r.set name value = r := by
  simp [set, h]

end ReplyHeaders

end RpcServer
