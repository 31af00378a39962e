import Mathlib.Data.List.Basic
import Mathlib.Data.List.Induction
import RpcServer.Proofs.Emission

/-! Reply headers after any writes. A call that sets a header leaves its value alone under the name in
small letters and nothing else changed, or, if name or value is not legal, leaves all as it was; that the
headers were poisoned before makes no difference. -/

namespace RpcServer

open Header Text

def Header.Name.lowered (s : String) : Name := ⟨String.ofList (s.toList.map Char.toLower)⟩

def Header.Value.ofString (s : String) : Value := ⟨Utf8.encode s.toList⟩

namespace HeaderWrite

def Legal (name value : String) : Prop :=
  (name.toList ≠ [] ∧ name.toList.length ≤ Name.maxLength ∧
    name.toList.all isTokenChar = true) ∧
  (Utf8.encode value.toList).all Value.isLegalByte = true

instance (name value : String) : Decidable (Legal name value) :=
  inferInstanceAs (Decidable ((_ ∧ _ ∧ _) ∧ _))

def setTo? (n : Name) : HeaderWrite → Option Value
  | .set name value =>
    if Legal name value ∧ Name.lowered name = n then some (.ofString value) else none
  | _ => none

def direct? : HeaderWrite → Option Name
  | .append n _ => some n
  | .remove n => some n
  | _ => none

def latest? (n : Name) (ws : List HeaderWrite) : Option Value := ws.reverse.findSome? (setTo? n)

lemma latest?_concat (n : Name) (ws : List HeaderWrite) (w : HeaderWrite) :
    latest? n (ws ++ [w]) = (w.setTo? n).or (latest? n ws) := by
  rw [latest?, List.reverse_concat, List.findSome?_cons, latest?]
  cases w.setTo? n <;> rfl

end HeaderWrite

open HeaderWrite

namespace ReplyHeaders

variable {name value : String} {n : Name} {r s : ReplyHeaders}

lemma field_of_legal (h : Legal name value) :
    field name value = .ok (.lowered name, .ofString value) := by
  obtain ⟨hname, hbytes⟩ := h
  have hn : Name.parse? name = some (.lowered name) := if_pos hname
  have hv : Value.ofText? value.toList = some (.ofString value) := if_pos hbytes
  simp only [field, hn, hv]

lemma field_of_not_legal (h : ¬ Legal name value) : ∃ e, field name value = .error e := by
  simp only [field]
  cases hn : Name.parse? name with
  | none => exact ⟨_, rfl⟩
  | some m =>
    cases hv : Value.ofText? value.toList with
    | none => exact ⟨_, rfl⟩
    | some v =>
      -- both were read, so both are legal
      simp only [Name.parse?, Value.ofText?, Option.ite_none_right_eq_some] at hn hv
      exact absurd ⟨hn.1, hv.1⟩ h

lemma set_of_legal (r : ReplyHeaders) (h : Legal name value) :
    r.set name value = { r with fields := r.fields.insert (.lowered name) (.ofString value) } := by
  simp only [set, field_of_legal h]

lemma set_of_not_legal (r : ReplyHeaders) (h : ¬ Legal name value) : r.set name value = r := by
  obtain ⟨e, he⟩ := field_of_not_legal h
  exact set_of_error he

lemma getAll_set (r : ReplyHeaders) (name value : String) (n : Name) :
    (r.set name value).fields.getAll n =
      ((HeaderWrite.set name value).setTo? n).elim (r.fields.getAll n) ([·]) := by
  by_cases h : Legal name value
  · rw [set_of_legal r h]
    by_cases hn : Name.lowered name = n
    · rw [setTo?, if_pos ⟨h, hn⟩, Option.elim_some, hn]
      exact Headers.getAll_insert_self r.fields n _
    · rw [setTo?, if_neg (not_and_of_not_right _ hn), Option.elim_none]
      exact Headers.getAll_insert_ne r.fields _ (Ne.symm hn)
  · rw [set_of_not_legal r h, setTo?, if_neg (not_and_of_not_left _ h), Option.elim_none]

lemma getAll_write {w : HeaderWrite} (h : w.direct? ≠ some n) :
    (r.write w).fields.getAll n = (w.setTo? n).elim (r.fields.getAll n) ([·]) := by
  cases w with
  | set name value => exact getAll_set r name value n
  | append m v => exact Headers.getAll_append_ne r.fields v fun hm => h (congrArg some hm.symm)
  | remove m => exact Headers.getAll_remove_ne r.fields fun hm => h (congrArg some hm.symm)
  | poison => rfl

lemma getAll_writes (ws : List HeaderWrite) (h : ∀ w ∈ ws, w.direct? ≠ some n) :
    (ws.foldl write r).fields.getAll n = (latest? n ws).elim (r.fields.getAll n) ([·]) := by
  induction ws using List.reverseRecOn with
  | nil => rfl
  | append_singleton ws w ih =>
    have hw := h w (List.mem_append_right ws (List.mem_singleton_self w))
    rw [List.foldl_concat, getAll_write hw, ih fun v hv => h v (List.mem_append_left [w] hv),
      latest?_concat]
    cases w.setTo? n <;> rfl

lemma fields_write_congr (h : r.fields = s.fields) (w : HeaderWrite) :
    (r.write w).fields = (s.write w).fields := by
  cases w with
  | set name value =>
    simp only [write, set]
    cases field name value with
    | error e => exact h
    | ok f => exact congrArg (·.insert f.1 f.2) h
  | append n v => exact congrArg (·.append n v) h
  | remove n => exact congrArg (·.remove n) h
  | poison => exact h

/-- Poisoning comes and goes without a trace in the fields. -/
lemma fields_writes_unpoisoned (h : r.fields = s.fields) (ws : List HeaderWrite) :
    (ws.foldl write r).fields = ((ws.filter (· ≠ .poison)).foldl write s).fields := by
  induction ws generalizing r s with
  | nil => exact h
  | cons w ws ih =>
    by_cases hw : w = .poison
    · subst hw
      exact ih h
    · have hf : (w :: ws).filter (· ≠ .poison) = w :: ws.filter (· ≠ .poison) :=
        List.filter_cons_of_pos (decide_eq_true hw)
      rw [hf]
      exact ih (fields_write_congr h w)

end ReplyHeaders

namespace Exchange

lemma reply_write (x : Exchange) (w : HeaderWrite) : (x.write w).reply = x.reply.write w := by
  cases h : ReplyHeaders.refusal? w with
  | none => simp only [write, h]
  | some e =>
    cases w with
    | set name value =>
      simp only [write, h]
      simp only [ReplyHeaders.refusal?] at h
      cases hf : ReplyHeaders.field name value with
      | error e => exact (ReplyHeaders.set_of_error hf).symm
      | ok f =>
        rw [hf] at h
        contradiction
    | _ => contradiction

lemma reply_writes (ws : List HeaderWrite) (x : Exchange) :
    (ws.foldl write x).reply = ws.foldl ReplyHeaders.write x.reply := by
  induction ws generalizing x with
  | nil => rfl
  | cons w ws ih => rw [List.foldl_cons, ih, reply_write, List.foldl_cons]

/-- What a call finds in its reply headers after any writes. Names that differ in case alone are one, and
what is read under a name that is only ever set is what the last legal call set it to. -/
theorem writes_settle (x : Exchange) :
    (∀ name value, ¬ Legal name value → (x.set name value).reply = x.reply) ∧
    (∀ name value, Legal name value →
      (x.set name value).reply.fields.getAll (.lowered name) = [.ofString value] ∧
      ∀ n, n ≠ .lowered name → (x.set name value).reply.fields.getAll n = x.reply.fields.getAll n) ∧
    (∀ n (ws : List HeaderWrite), (∀ w ∈ ws, w.direct? ≠ some n) →
      (ws.foldl write x).reply.fields.getAll n =
        (latest? n ws).elim (x.reply.fields.getAll n) ([·])) ∧
    ∀ ws : List HeaderWrite, (ws.foldl write x).reply.fields =
      ((ws.filter (· ≠ .poison)).foldl write x).reply.fields := by
  refine ⟨fun name value h => ?_, fun name value h => ⟨?_, fun n hn => ?_⟩, fun n ws h => ?_,
    fun ws => ?_⟩
  · rw [set, reply_write]
    exact ReplyHeaders.set_of_not_legal x.reply h
  · rw [set, reply_write, ReplyHeaders.write, ReplyHeaders.set_of_legal x.reply h]
    exact Headers.getAll_insert_self x.reply.fields _ _
  · rw [set, reply_write, ReplyHeaders.write, ReplyHeaders.set_of_legal x.reply h]
    exact Headers.getAll_insert_ne x.reply.fields _ hn
  · rw [reply_writes, ReplyHeaders.getAll_writes ws h]
  · rw [reply_writes, reply_writes]
    exact ReplyHeaders.fields_writes_unpoisoned rfl ws

theorem writes_settle_mixed_case :
    let x := Exchange.start (World.start 0 .discard)
    let ws : List HeaderWrite := [.set "X-Request-Id" "abc", .append ⟨"vary"⟩ ⟨[0x61]⟩, .poison,
      .set "x-request-ID" "def", .set "bad header" "v", .set "x-request-id" "bad\nvalue"]
    (¬ Legal "bad header" "v" ∧ Legal "X-Request-Id" "abc" ∧
      ∀ w ∈ ws, w.direct? ≠ some ⟨"x-request-id"⟩) ∧
    (x.set "bad header" "v").reply = x.reply ∧
    (x.set "X-Request-Id" "abc").reply.fields.getAll ⟨"x-request-id"⟩ = [.ofString "abc"] ∧
    (ws.foldl write x).reply.fields.getAll ⟨"x-request-id"⟩ = [.ofString "def"] := by
  intro x ws
  have hb : ¬ Legal "bad header" "v" := by decide +kernel
  have hl : Legal "X-Request-Id" "abc" := by decide +kernel
  have hd : ∀ w ∈ ws, w.direct? ≠ some ⟨"x-request-id"⟩ := by decide
  have hn : Name.lowered "X-Request-Id" = ⟨"x-request-id"⟩ := by decide
  obtain ⟨hkept, hset, hlatest, -⟩ := writes_settle x
  refine ⟨⟨hb, hl, hd⟩, hkept _ _ hb, hn ▸ (hset _ _ hl).1, ?_⟩
  rw [hlatest _ ws hd]
  decide +kernel

end Exchange

end RpcServer
