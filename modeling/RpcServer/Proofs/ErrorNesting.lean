import Mathlib.Tactic.Lemma
import RpcServer.ServiceError

/-! Errors inside errors. A service error in a nesting is found along the causes, unless an input-output
error stands directly around it: that one takes its place in the chain and has no cause of its own. -/

namespace RpcServer

namespace Fault

def layers : Fault → List Fault
  | .service e => [.service e]
  | .plain message => [.plain message]
  | .wrapped message cause => .wrapped message cause :: cause.layers
  | .ioAround inner => .ioAround inner :: inner.layers

def nested? (f : Fault) : Option ServiceError := f.layers.findSome? service?

def met? (f : Fault) : Option ServiceError := f.chain.findSome? service?

def isVeil : Fault → Bool
  | .ioAround (.service _) => true
  | _ => false

def isVeiled (f : Fault) : Bool := f.layers.any isVeil

variable {f : Fault} {e : ServiceError}

lemma eq_service (h : f.service? = some e) : f = .service e := by
  cases f with
  | service d => exact congrArg _ (Option.some.inj h)
  | _ => contradiction

lemma isVeil_iff : f.isVeil = true ↔ ∃ e, f = .ioAround (.service e) := by
  constructor
  · intro h
    cases f with
    | ioAround inner =>
      cases inner with
      | service e => exact ⟨e, rfl⟩
      | _ => contradiction
    | _ => contradiction
  · rintro ⟨e, rfl⟩
    rfl

lemma isVeiled_iff : f.isVeiled = true ↔ ∃ e, .ioAround (.service e) ∈ f.layers := by
  rw [isVeiled, List.any_eq_true]
  constructor
  · rintro ⟨g, hg, hv⟩
    obtain ⟨e, rfl⟩ := isVeil_iff.mp hv
    exact ⟨e, hg⟩
  · rintro ⟨e, he⟩
    exact ⟨_, he, rfl⟩

lemma met?_of_service?_eq_none (h : f.service? = none) :
    f.met? = f.chain.tail.findSome? service? := by
  rw [met?, chain_eq, List.findSome?_cons, h, List.tail_cons]

lemma met?_ioAround (h : f.service? = none) : (ioAround f).met? = f.met? :=
  (met?_of_service?_eq_none h).symm

lemma isVeiled_ioAround (h : f.service? = none) : (ioAround f).isVeiled = f.isVeiled := by
  cases f with
  | service e => contradiction
  | plain message => rfl
  | wrapped message cause => rfl
  | ioAround inner => rfl

lemma met?_eq (f : Fault) : f.met? = if f.isVeiled then none else f.nested? := by
  induction f with
  | service e => rfl
  | plain message => rfl
  | wrapped message cause ih => exact ih
  | ioAround inner ih =>
    cases h : inner.service? with
    | none =>
      rw [met?_ioAround h, isVeiled_ioAround h, ih]
      rfl
    | some e =>
      obtain rfl := eq_service h
      rfl

lemma nested?_isSome_of_isVeiled (h : f.isVeiled = true) : f.nested?.isSome = true := by
  induction f with
  | service e => contradiction
  | plain message => contradiction
  | wrapped message cause ih => exact ih h
  | ioAround inner ih =>
    cases hs : inner.service? with
    | none => exact ih ((isVeiled_ioAround hs).symm.trans h)
    | some e =>
      obtain rfl := eq_service hs
      rfl

lemma met?_eq_nested?_iff : f.met? = f.nested? ↔ f.isVeiled = false := by
  rw [met?_eq]
  cases h : f.isVeiled with
  | false => exact iff_of_true rfl rfl
  | true =>
    refine iff_of_false (fun he => ?_) Bool.true_eq_false.mp
    have hn := nested?_isSome_of_isVeiled h
    rw [← he] at hn
    contradiction

end Fault

namespace ServiceError

/-- An error is taken for the service error in it, just where that one has no input-output error directly
around it. Any other is unknown and shows the text of the outermost one. -/
theorem found_unless_veiled (f : Fault) :
    ofFault f = (if f.isVeiled then none else f.nested?).getD ⟨500, "UNKNOWN", f.display, .empty⟩ ∧
      (f.met? = f.nested? ↔ f.isVeiled = false) ∧
      (f.isVeiled = true ↔ ∃ e, .ioAround (.service e) ∈ f.layers) := by
  refine ⟨?_, Fault.met?_eq_nested?_iff, Fault.isVeiled_iff⟩
  rw [← Fault.met?_eq]
  rfl

-- one foreign error between the two is enough
example : ofFault (.ioAround (.wrapped "reading" (.service ⟨7, "INNER", "inner", .empty⟩))) =
    ⟨7, "INNER", "inner", .empty⟩ := rfl

def NeverLost : Prop :=
  ∀ f : Fault, ofFault f = f.nested?.getD ⟨500, "UNKNOWN", f.display, .empty⟩

theorem veiled_lost : ¬ NeverLost := by
  intro h
  have hc := congrArg code (h (.ioAround (.service ⟨7, "INNER", "inner", .empty⟩)))
  exact absurd hc (by decide)

end ServiceError

end RpcServer
