import Mathlib.Tactic.Common
import RpcServer.Json.Printer

/-! The text of JSON values, front to back, and what can be read off it. -/

namespace RpcServer

namespace Text.Utf8

lemma encode_injective {s t : List Char} (h : encode s = encode t) : s = t := by
  have hb : s.utf8Encode = t.utf8Encode := congrArg List.toByteArray h
  exact String.ofList_injective (String.toByteArray_inj.mp hb)

end Text.Utf8

namespace Json

mutual

lemma emit_append (a b : List Char) : (v : Json) → emit (a ++ b) v = emit a v ++ b
  | .null | .bool _ | .number _ | .string _ | .array [] | .object [] => by simp [emit]
  | .array (v :: vs) => by
    rw [emit, emit, ← List.cons_append, emit_append, emitItems_append, List.cons_append]
  | .object ((k, v) :: fs) => by
    rw [emit, emit]
    simp only [← List.cons_append, ← List.append_assoc]
    rw [emit_append, emitFields_append]
    rfl

lemma emitItems_append (a b : List Char) : (vs : List Json) →
    emitItems (a ++ b) vs = emitItems a vs ++ b
  | [] => rfl
  | v :: vs => by
    rw [emitItems, emitItems, ← List.cons_append, emit_append, emitItems_append]

lemma emitFields_append (a b : List Char) : (fs : List (String × Json)) →
    emitFields (a ++ b) fs = emitFields a fs ++ b
  | [] => rfl
  | (k, v) :: fs => by
    rw [emitFields, emitFields]
    simp only [← List.cons_append, ← List.append_assoc]
    rw [emit_append, emitFields_append]

end

lemma emit_eq (done : List Char) (v : Json) : emit done v = v.render.reverse ++ done := by
  rw [render, List.reverse_reverse, ← emit_append, List.nil_append]

def fieldsText (fs : List (String × Json)) : List Char :=
  fs.flatMap fun f => ',' :: renderString f.1 ++ ':' :: f.2.render

lemma emitFields_eq (done : List Char) (fs : List (String × Json)) :
    emitFields done fs = (fieldsText fs).reverse ++ done := by
  induction fs generalizing done with
  | nil => rfl
  | cons f fs ih =>
    obtain ⟨k, v⟩ := f
    rw [emitFields, emit_eq, ih]
    simp [fieldsText]

lemma render_object_cons (k : String) (v : Json) (fs : List (String × Json)) :
    (object ((k, v) :: fs)).render =
      '\x7b' :: renderString k ++ ':' :: v.render ++ fieldsText fs ++ ['\x7d'] := by
  rw [render, emit, emit_eq, emitFields_eq]
  simp

lemma fieldsText_head (fs : List (String × Json)) :
    ∃ c rest, fieldsText fs ++ ['\x7d'] = c :: rest ∧ (c = ',' ∨ c = '\x7d') := by
  cases fs with
  | nil => exact ⟨'\x7d', [], rfl, .inr rfl⟩
  | cons f fs => exact ⟨',', _, rfl, .inl rfl⟩

def isIntegerChar (c : Char) : Bool := c.isDigit || c = '-'

lemma render_int (n : Int) : (int n).render = (toString n).toList := by
  simp [int, render, emit, Number.render]

lemma toList_ofNat (m : ℕ) : (toString (Int.ofNat m)).toList = Nat.toDigits 10 m := Nat.toList_repr

lemma toList_negSucc (m : ℕ) :
    (toString (Int.negSucc m)).toList = '-' :: Nat.toDigits 10 (m + 1) := by
  have hs : toString (Int.negSucc m) = "-" ++ Nat.repr (m + 1) := rfl
  rw [hs, String.toList_append, Nat.toList_repr]
  rfl

lemma isDigit_of_mem_toDigits {m : ℕ} {c : Char} (h : c ∈ Nat.toDigits 10 m) : c.isDigit = true :=
  Nat.isDigit_of_mem_toDigits (by decide) (by decide) h

lemma isIntegerChar_of_mem {n : Int} {c : Char} (h : c ∈ (toString n).toList) :
    isIntegerChar c = true := by
  cases n with
  | ofNat m =>
    rw [toList_ofNat] at h
    rw [isIntegerChar, isDigit_of_mem_toDigits h, Bool.true_or]
  | negSucc m =>
    rw [toList_negSucc] at h
    rcases List.mem_cons.mp h with rfl | h
    · rfl
    · rw [isIntegerChar, isDigit_of_mem_toDigits h, Bool.true_or]

lemma toDigits_injective {a b : ℕ} (h : Nat.toDigits 10 a = Nat.toDigits 10 b) : a = b := by
  rw [← @Nat.ofDigitChars_ten_toDigits a, h, Nat.ofDigitChars_ten_toDigits]

lemma toDigits_ne_minus (m : ℕ) (s : List Char) : Nat.toDigits 10 m ≠ '-' :: s := by
  intro h
  have hm : '-'.isDigit = true := isDigit_of_mem_toDigits (h ▸ List.mem_cons_self)
  exact absurd hm (by decide)

lemma toList_injective {m n : Int} (h : (toString m).toList = (toString n).toList) : m = n := by
  cases m with
  | ofNat a =>
    cases n with
    | ofNat b =>
      rw [toList_ofNat, toList_ofNat] at h
      exact congrArg Int.ofNat (toDigits_injective h)
    | negSucc b =>
      rw [toList_ofNat, toList_negSucc] at h
      exact absurd h (toDigits_ne_minus a _)
  | negSucc a =>
    cases n with
    | ofNat b =>
      rw [toList_ofNat, toList_negSucc] at h
      exact absurd h.symm (toDigits_ne_minus b _)
    | negSucc b =>
      rw [toList_negSucc, toList_negSucc] at h
      exact congrArg Int.negSucc (Nat.succ.inj (toDigits_injective (List.cons.inj h).2))

lemma int_of_render_append {m n : Int} {c d : Char} {s t : List Char}
    (h : (int m).render ++ c :: s = (int n).render ++ d :: t) (hc : isIntegerChar c = false)
    (hd : isIntegerChar d = false) : m = n := by
  have ht : ∀ (k : Int) (e : Char) (u : List Char), isIntegerChar e = false →
      ((int k).render ++ e :: u).takeWhile isIntegerChar = (toString k).toList := by
    intro k e u he
    rw [render_int, List.takeWhile_append_of_pos fun _ => isIntegerChar_of_mem,
      List.takeWhile_cons_of_neg (by simp [he]), List.append_nil]
  have hs : (toString m).toList = (toString n).toList := by
    rw [← ht m c s hc, h, ht n d t hd]
  exact toList_injective hs

end Json

end RpcServer
