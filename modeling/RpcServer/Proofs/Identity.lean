import Mathlib.Tactic.Common
import Mathlib.Tactic.IntervalCases
import RpcServer.Call.Context
import RpcServer.Call.ReplyHeaders

/-! The ids of a call are texts that may stand in a header, whatever span is bound. -/

namespace RpcServer

open Text Header

namespace Text.Hex

lemma mem_digits {c : Char} (h : isLowerDigit c = true) : c ∈ "0123456789abcdef".toList := by
  simp only [isLowerDigit, Bool.or_eq_true, Bool.and_eq_true, decide_eq_true_eq] at h
  have hc : c = Char.ofNat c.toNat := (Char.ofNat_toNat c).symm
  rcases h with ⟨hl, hu⟩ | ⟨hl, hu⟩
  · have h1 : 48 ≤ c.toNat := hl
    have h2 : c.toNat ≤ 57 := hu
    rw [hc]
    interval_cases c.toNat <;> decide
  · have h1 : 97 ≤ c.toNat := hl
    have h2 : c.toNat ≤ 102 := hu
    rw [hc]
    interval_cases c.toNat <;> decide

end Text.Hex

namespace Header.Value

lemma ofText?_isSome {s : List Char}
    (h : ∀ c ∈ s, (String.utf8EncodeChar c).all isLegalByte = true) : (ofText? s).isSome = true := by
  have hb : (Utf8.encode s).all isLegalByte = true := by
    rw [List.all_eq_true]
    intro b hb
    obtain ⟨c, hc, hbc⟩ := List.mem_flatMap.mp hb
    exact List.all_eq_true.mp (h c hc) b hbc
  simp [ofText?, hb]

lemma ofText?_digits {s : List Char} (h : s.all Hex.isLowerDigit = true) :
    (ofText? s).isSome = true := by
  apply ofText?_isSome
  intro c hc
  have hd : ("0123456789abcdef".toList.all fun d =>
      (String.utf8EncodeChar d).all isLegalByte) = true := by decide
  exact List.all_eq_true.mp hd c (Hex.mem_digits (List.all_eq_true.mp h c hc))

end Header.Value

namespace Trace

lemma digits_of_isId {n : ℕ} {s : List Char} (h : isId n s = true) :
    s.all Hex.isLowerDigit = true := by
  simp only [isId, isLowerHex, Bool.and_eq_true] at h
  exact h.1.2.2

namespace Identity

structure Legal (i : Identity) : Prop where
  traceId : (Value.ofText? i.traceId.toList).isSome = true
  spanId : (Value.ofText? i.spanId.toList).isSome = true

lemma none_legal : none.Legal := ⟨by decide, by decide⟩

lemma ofSpan_legal (s : Option Span) : (ofSpan s).Legal := by
  cases s with
  | none => exact none_legal
  | some s =>
    by_cases h : s.isValid = true
    · have hi : ofSpan (some s) = ⟨s.traceId, s.spanId⟩ := by simp [ofSpan, h]
      simp only [Span.isValid, Bool.and_eq_true] at h
      rw [hi]
      exact ⟨Value.ofText?_digits (digits_of_isId h.1), Value.ofText?_digits (digits_of_isId h.2)⟩
    · have hi : ofSpan (some s) = none := by simp [ofSpan, h]
      rw [hi]
      exact none_legal

end Identity

end Trace

lemma Context.identity_legal (c : Context) : c.identity.Legal :=
  Trace.Identity.ofSpan_legal c.span

namespace ReplyHeaders

lemma field_eq {name value : String} {n : Name} (hn : Name.parse? name = some n)
    (hv : (Value.ofText? value.toList).isSome = true) :
    ∃ v, Value.ofText? value.toList = some v ∧ field name value = .ok (n, v) := by
  obtain ⟨v, hv⟩ := Option.isSome_iff_exists.mp hv
  exact ⟨v, hv, by simp [field, hn, hv]⟩

lemma refusal?_set {name value : String} {n : Name} (hn : Name.parse? name = some n)
    (hv : (Value.ofText? value.toList).isSome = true) : refusal? (.set name value) = none := by
  obtain ⟨v, _, hf⟩ := field_eq hn hv
  simp [refusal?, hf]

end ReplyHeaders

end RpcServer
