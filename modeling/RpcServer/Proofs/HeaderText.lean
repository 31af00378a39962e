import RpcServer.Headers
import RpcServer.Proofs.Identity
import RpcServer.Proofs.TextCuts
import RpcServer.Trace.Propagation

/-! Header values that are text: they are made of visible characters, and who reads a value that was
made of such a text gets the text back. -/

namespace RpcServer

open Text

namespace Text

def isVisible (c : Char) : Bool := (0x20 ≤ c.toNat && c.toNat < 0x7f) || c.toNat = 9

lemma toNat_of_isVisible {c : Char} (h : isVisible c = true) :
    (UInt8.ofNat c.toNat).toNat = c.toNat ∧ c.toNat < 0x7f := by
  simp only [isVisible, Bool.or_eq_true, Bool.and_eq_true, decide_eq_true_eq] at h
  rw [UInt8.toNat_ofNat']
  omega

lemma encode_visible {s : List Char} (h : ∀ c ∈ s, isVisible c = true) :
    Utf8.encode s = s.map fun c => UInt8.ofNat c.toNat := by
  induction s with
  | nil => rfl
  | cons c cs ih =>
    have hc : c.val.toNat ≤ 127 := by
      have := (toNat_of_isVisible (h c List.mem_cons_self)).2
      have hv : c.val.toNat = c.toNat := rfl
      omega
    rw [Utf8.encode_cons, ih fun d hd => h d (List.mem_cons_of_mem c hd)]
    simp only [String.utf8EncodeChar, if_pos hc]
    rfl

lemma isVisible_of_isLowerDigit {c : Char} (h : Hex.isLowerDigit c = true) : isVisible c = true := by
  have hd : ("0123456789abcdef".toList.all isVisible) = true := by decide
  exact List.all_eq_true.mp hd c (Hex.mem_digits h)

end Text

namespace Header.Value

lemma isTextByte_eq (b : UInt8) : isTextByte b = isVisible (Char.ofNat b.toNat) := by
  have hb : (Char.ofNat b.toNat).toNat = b.toNat := by
    have hlt := UInt8.toNat_lt b
    rw [Char.ofNat, dif_pos (.inl (by omega))]
    rfl
  have h9 : b = 0x09 ↔ b.toNat = 9 := UInt8.toNat_inj.symm
  simp only [isTextByte, isVisible, hb, h9, UInt8.le_iff_toNat_le, UInt8.lt_iff_toNat_lt]
  rfl

lemma isLegalByte_of_text {b : UInt8} (h : isTextByte b = true) : isLegalByte b = true := by
  simp only [isTextByte, isLegalByte, Bool.or_eq_true, Bool.and_eq_true, decide_eq_true_eq] at h ⊢
  refine h.imp_left fun hb => ⟨hb.1, ?_⟩
  rintro rfl
  exact absurd hb.2 (by decide)

lemma visible_of_text? {v : Value} {s : List Char} (h : v.text? = some s) :
    ∀ c ∈ s, isVisible c = true := by
  simp only [text?] at h
  split at h
  · rename_i ht
    obtain rfl := Option.some.inj h
    intro c hc
    obtain ⟨b, hb, rfl⟩ := List.mem_map.mp hc
    exact (isTextByte_eq b).symm.trans (List.all_eq_true.mp ht b hb)
  · contradiction

lemma text?_encode {s : List Char} (h : ∀ c ∈ s, isVisible c = true) :
    text? ⟨Utf8.encode s⟩ = some s ∧ ofText? s = some ⟨Utf8.encode s⟩ := by
  have hread : ∀ c ∈ s, Char.ofNat (UInt8.ofNat c.toNat).toNat = c := by
    intro c hc
    rw [(toNat_of_isVisible (h c hc)).1, Char.ofNat_toNat]
  have htext : ∀ b ∈ Utf8.encode s, isTextByte b = true := by
    rw [encode_visible h]
    intro b hb
    obtain ⟨c, hc, rfl⟩ := List.mem_map.mp hb
    rw [isTextByte_eq, hread c hc]
    exact h c hc
  constructor
  · rw [text?, isText, if_pos (List.all_eq_true.mpr htext), encode_visible h, List.map_map]
    congr 1
    exact (List.map_congr_left hread).trans (List.map_id s)
  · exact if_pos (List.all_eq_true.mpr fun b hb => isLegalByte_of_text (htext b hb))

end Header.Value

namespace Headers

variable {h : Headers} {n m : Header.Name} {s : List Char}

lemma text?_visible (hs : h.text? n = some s) :
    (∀ c ∈ s, isVisible c = true) ∧ trim s = s := by
  obtain ⟨t, ht, rfl⟩ := Option.map_eq_some_iff.mp hs
  obtain ⟨v, -, hv⟩ := Option.bind_eq_some_iff.mp ht
  exact ⟨fun c hc => Header.Value.visible_of_text? hv c ((trim_sublist t).subset hc), trim_trim t⟩

end Headers

namespace Trace

variable {h : Headers} {n m : Header.Name} {s : List Char}

lemma getAll_put_self (h : Headers) (n : Header.Name) (s : List Char) :
    (put h n s).getAll n = (Header.Value.ofText? s).elim (h.getAll n) ([·]) := by
  cases hv : Header.Value.ofText? s with
  | none => simp only [put, hv, Option.elim_none]
  | some v => simp only [put, hv, Headers.getAll_insert_self, Option.elim_some]

lemma texts_put (hs : ∀ c ∈ s, isVisible c = true) :
    ((put h n s).getAll n).filterMap Header.Value.text? = [s] := by
  obtain ⟨ht, hv⟩ := Header.Value.text?_encode hs
  rw [getAll_put_self, hv, Option.elim_some, List.filterMap_cons, ht, List.filterMap_nil]

lemma text?_put (hs : ∀ c ∈ s, isVisible c = true) : (put h n s).text? n = some (trim s) := by
  obtain ⟨ht, hv⟩ := Header.Value.text?_encode hs
  rw [Headers.text?, Headers.get?, getAll_put_self, hv, Option.elim_some, List.head?_cons,
    Option.bind_some, ht, Option.map_some]

lemma getAll_put_ne (hm : m ≠ n) (s : List Char) : (put h n s).getAll m = h.getAll m := by
  simp only [put]
  split
  · exact Headers.getAll_insert_ne h _ hm
  · rfl

lemma text?_put_ne (hm : m ≠ n) (s : List Char) : (put h n s).text? m = h.text? m := by
  simp only [Headers.text?, Headers.get?, getAll_put_ne hm]

end Trace

end RpcServer
