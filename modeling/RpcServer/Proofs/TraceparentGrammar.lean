import Mathlib.Algebra.Ring.Parity
import Mathlib.Data.Nat.Digits.Defs
import RpcServer.Proofs.SpanPropagation

/-! The form of a `traceparent`: which texts are read as one, and what is read from them. -/

namespace RpcServer

open Text

namespace Text.Hex

def digits : List Char := "0123456789abcdef".toList

def value (s : List Char) : ℕ := Nat.ofDigits 16 (s.reverse.map (digits.idxOf ·))

variable {c a b : Char}

lemma idxOf_lt (h : c ∈ digits) : digits.idxOf c < 16 := List.idxOf_lt_length_of_mem h

lemma value?_of_mem (h : c ∈ digits) : value? c = some (digits.idxOf c) := by
  have hd : digits.all (fun d => value? d == some (digits.idxOf d)) = true := by decide
  exact eq_of_beq (List.all_eq_true.mp hd c h)

lemma digit_idxOf (h : c ∈ digits) : digit (digits.idxOf c) = c := by
  have hd : digits.all (fun d => digit (digits.idxOf d) == d) = true := by decide
  exact eq_of_beq (List.all_eq_true.mp hd c h)

lemma value_pair (a b : Char) : value [a, b] = digits.idxOf b + 16 * digits.idxOf a := by
  simp [value, Nat.ofDigits_cons]

lemma value_pair_lt (ha : a ∈ digits) (hb : b ∈ digits) : value [a, b] < 256 := by
  have h1 := idxOf_lt ha
  have h2 := idxOf_lt hb
  rw [value_pair]
  omega

lemma number?_pair (ha : a ∈ digits) (hb : b ∈ digits) :
    number? [a, b] = some (value [a, b]) := by
  have hn : (0 * 16 + digits.idxOf a) * 16 + digits.idxOf b = value [a, b] := by
    rw [value_pair]
    omega
  simp only [number?, List.foldlM_cons, List.foldlM_nil, value?_of_mem ha, value?_of_mem hb]
  exact congrArg some hn

lemma ofByte_value (ha : a ∈ digits) (hb : b ∈ digits) :
    ofByte (UInt8.ofNat (value [a, b])) = [a, b] := by
  have h1 := idxOf_lt ha
  have h2 := idxOf_lt hb
  have hq : (digits.idxOf b + 16 * digits.idxOf a) / 16 = digits.idxOf a := by omega
  have hr : (digits.idxOf b + 16 * digits.idxOf a) % 16 = digits.idxOf b := by omega
  rw [ofByte, UInt8.toNat_ofNat', Nat.mod_eq_of_lt (value_pair_lt ha hb), value_pair, hq, hr,
    digit_idxOf ha, digit_idxOf hb]

end Text.Hex

namespace Trace

def IsHex (length : ℕ) (s : List Char) : Prop :=
  s.length = length ∧ ∀ c ∈ s, Hex.isLowerDigit c = true

structure Parent where
  version : List Char
  traceId : List Char
  spanId : List Char
  flags : List Char

namespace Parent

structure Sound (p : Parent) : Prop where
  version : IsHex 2 p.version
  used : p.version ≠ ['f', 'f']
  traceId : IsDigits 32 p.traceId
  spanId : IsDigits 16 p.spanId
  flags : IsHex 2 p.flags

def text (p : Parent) : List Char :=
  p.version ++ '-' :: (p.traceId ++ '-' :: (p.spanId ++ '-' :: p.flags))

def Heads (p : Parent) (s : List Char) : Prop :=
  s = p.text ∨ p.version ≠ ['0', '0'] ∧ ∃ rest, s = p.text ++ '-' :: rest

def span (p : Parent) : Span where
  traceId := String.ofList p.traceId
  spanId := String.ofList p.spanId
  flags := UInt8.ofNat (Hex.value p.flags)
  state := none
  remote := true

/-- What the span says of the fields, and that it is handed on in version `00` and read again. -/
structure Reads (p : Parent) (s : Span) : Prop where
  traceId : s.traceId.toList = p.traceId
  spanId : s.spanId.toList = p.spanId
  flags : s.flags.toNat = Hex.value p.flags
  state : s.state = none
  valid : s.isValid = true
  sampled : s.isSampled = true ↔ Odd (Hex.value p.flags)
  written : s.traceparent = { p with version := ['0', '0'] }.text
  again : Span.ofTraceparent? s.traceparent = some s

end Parent

variable {n : ℕ} {s : List Char} {p : Parent}

lemma isHex_iff (hn : 0 < n) :
    s.length = n ∧ isLowerHex s = true ↔ IsHex n s := by
  simp only [IsHex, isLowerHex, Bool.and_eq_true, decide_eq_true_eq, List.all_eq_true]
  constructor
  · rintro ⟨hl, -, hd⟩
    exact ⟨hl, hd⟩
  · rintro ⟨hl, hd⟩
    exact ⟨hl, List.ne_nil_of_length_pos (hl ▸ hn), hd⟩

lemma isVersion_iff : Span.isVersion s = true ↔ IsHex 2 s ∧ s ≠ ['f', 'f'] := by
  rw [← isHex_iff (Nat.zero_lt_two)]
  simp only [Span.isVersion, Bool.and_eq_true, decide_eq_true_eq]

lemma isId_iff : isId n s = true ↔ IsDigits n s := by
  refine ⟨isDigits_of_isId, fun ⟨hl, hd, c, hc, hz⟩ => ?_⟩
  have hx := (isHex_iff (hl ▸ List.length_pos_of_mem hc)).mpr ⟨hl, hd⟩
  have hn : isAllZero s = false := List.all_eq_false.mpr ⟨c, hc, by simpa using hz⟩
  simp only [isId, hx, hn, decide_true, Bool.not_false, Bool.and_self]

lemma IsHex.pair (h : IsHex 2 s) : ∃ a b, s = [a, b] ∧ a ∈ Hex.digits ∧ b ∈ Hex.digits := by
  obtain ⟨a, b, rfl⟩ := List.length_eq_two.mp h.1
  exact ⟨a, b, rfl, Hex.mem_digits (h.2 a (by simp)), Hex.mem_digits (h.2 b (by simp))⟩

namespace Parent

lemma Sound.hyphen (h : p.Sound) :
    '-' ∉ p.version ∧ '-' ∉ p.traceId ∧ '-' ∉ p.spanId ∧ '-' ∉ p.flags :=
  ⟨Hex.hyphen_not_mem h.version.2, Hex.hyphen_not_mem h.traceId.lower,
    Hex.hyphen_not_mem h.spanId.lower, Hex.hyphen_not_mem h.flags.2⟩

lemma Sound.pieces_append (h : p.Sound) (rest : List Char) :
    pieces '-' (p.text ++ '-' :: rest) =
      p.version :: p.traceId :: p.spanId :: p.flags :: pieces '-' rest := by
  obtain ⟨hv, ht, hs, hf⟩ := h.hyphen
  simp only [text, List.append_assoc, List.cons_append]
  rw [Text.pieces_append hv, Text.pieces_append ht, Text.pieces_append hs, Text.pieces_append hf]

lemma Sound.pieces_text (h : p.Sound) :
    pieces '-' p.text = [p.version, p.traceId, p.spanId, p.flags] := by
  obtain ⟨hv, ht, hs, hf⟩ := h.hyphen
  rw [text, Text.pieces_append hv, Text.pieces_append ht, Text.pieces_append hs,
    pieces_of_not_mem hf]

lemma Sound.heads_iff (h : p.Sound) : p.Heads s ↔ ∃ rest,
    pieces '-' s = p.version :: p.traceId :: p.spanId :: p.flags :: rest ∧
      (p.version ≠ ['0', '0'] ∨ rest = []) := by
  constructor
  · rintro (rfl | ⟨hv, rest, rfl⟩)
    · exact ⟨[], h.pieces_text, .inr rfl⟩
    · exact ⟨pieces '-' rest, h.pieces_append rest, .inl hv⟩
  · rintro ⟨rest, hp, hr⟩
    -- a text is its pieces with the separators between them
    have hs := joined_pieces '-' s
    rw [hp] at hs
    cases rest with
    | nil =>
      refine .inl (hs.symm.trans ?_)
      simp [joined, text]
    | cons q qs =>
      refine .inr ⟨hr.resolve_right (List.cons_ne_nil q qs), joined ['-'] (q :: qs), ?_⟩
      rw [← hs]
      simp [joined, text]

end Parent

namespace Span

lemma ofFields?_parent (p : Parent) (rest : List (List Char)) {t : Span} :
    ofFields? (p.version :: p.traceId :: p.spanId :: p.flags :: rest) = some t ↔
      p.Sound ∧ (p.version ≠ ['0', '0'] ∨ rest = []) ∧ t = p.span := by
  have hc : (isVersion p.version && (p.version ≠ ['0', '0'] || rest.isEmpty) &&
      isId traceIdLength p.traceId && isId spanIdLength p.spanId &&
      p.flags.length = 2 && isLowerHex p.flags) = true ↔
        p.Sound ∧ (p.version ≠ ['0', '0'] ∨ rest = []) := by
    simp only [Bool.and_eq_true, Bool.or_eq_true, decide_eq_true_eq, List.isEmpty_iff,
      isVersion_iff, isId_iff]
    constructor
    · rintro ⟨⟨⟨⟨⟨⟨hv, hu⟩, hr⟩, ht⟩, hs⟩, hl⟩, hf⟩
      exact ⟨⟨hv, hu, ht, hs, (isHex_iff Nat.zero_lt_two).mp ⟨hl, hf⟩⟩, hr⟩
    · rintro ⟨⟨hv, hu, ht, hs, hf⟩, hr⟩
      obtain ⟨hl, hf⟩ := (isHex_iff Nat.zero_lt_two).mpr hf
      exact ⟨⟨⟨⟨⟨⟨hv, hu⟩, hr⟩, ht⟩, hs⟩, hl⟩, hf⟩
  rw [ofFields?, ← and_assoc, ← hc]
  split
  · rename_i h
    have hn : Hex.number? p.flags = some (Hex.value p.flags) := by
      obtain ⟨a, b, hp, ha, hb⟩ := (hc.mp h).1.flags.pair
      rw [hp, Hex.number?_pair ha hb]
    rw [hn, Option.map_some, Option.some.injEq, eq_comm]
    exact (and_iff_right h).symm
  · rename_i h
    simp only [h, false_and, reduceCtorEq]

lemma ofTraceparent?_eq_some_iff {t : Span} :
    ofTraceparent? s = some t ↔ ∃ p : Parent, p.Sound ∧ p.Heads (trim s) ∧ t = p.span := by
  constructor
  · intro h
    obtain ⟨-, version, flags, rest, hp⟩ := ofFields?_eq_some h
    rw [ofTraceparent?, hp] at h
    let p : Parent := ⟨version, t.traceId.toList, t.spanId.toList, flags⟩
    obtain ⟨hs, hr, ht⟩ := (ofFields?_parent p rest).mp h
    exact ⟨p, hs, hs.heads_iff.mpr ⟨rest, hp, hr⟩, ht⟩
  · rintro ⟨p, hs, hh, ht⟩
    obtain ⟨rest, hp, hr⟩ := hs.heads_iff.mp hh
    rw [ofTraceparent?, hp]
    exact (ofFields?_parent p rest).mpr ⟨hs, hr, ht⟩

end Span

lemma Parent.Sound.reads (h : p.Sound) : p.Reads p.span := by
  obtain ⟨a, b, hf, ha, hb⟩ := h.flags.pair
  have hlt : Hex.value p.flags < 256 := hf ▸ Hex.value_pair_lt ha hb
  have hn : p.span.flags.toNat = Hex.value p.flags := by
    rw [span, UInt8.toNat_ofNat', Nat.mod_eq_of_lt hlt]
  have hv : p.span.isValid = true := by
    simp only [Span.isValid, span, String.toList_ofList, isId_iff, Bool.and_eq_true]
    exact ⟨h.traceId, h.spanId⟩
  have hw : p.span.traceparent = { p with version := ['0', '0'] }.text := by
    rw [Span.traceparent_eq, text]
    simp only [span, String.toList_ofList, hf, Hex.ofByte_value ha hb]
  constructor
  case traceId => exact String.toList_ofList
  case spanId => exact String.toList_ofList
  case flags => exact hn
  case state => rfl
  case valid => exact hv
  case sampled => rw [Span.isSampled, hn, decide_eq_true_eq, Nat.odd_iff]
  case written => exact hw
  case again => exact Span.ofTraceparent?_traceparent hv

/-- A text is read just if it has the form of a `traceparent`, and then as what its fields say. -/
theorem reads_exactly (s : List Char) :
    ((Span.ofTraceparent? s).isSome = true ↔ ∃ p : Parent, p.Sound ∧ p.Heads (trim s)) ∧
    ∀ p : Parent, p.Sound → p.Heads (trim s) →
      ∃ t, Span.ofTraceparent? s = some t ∧ p.Reads t := by
  constructor
  · rw [Option.isSome_iff_exists]
    constructor
    · rintro ⟨t, ht⟩
      obtain ⟨p, hs, hh, -⟩ := Span.ofTraceparent?_eq_some_iff.mp ht
      exact ⟨p, hs, hh⟩
    · rintro ⟨p, hs, hh⟩
      exact ⟨p.span, Span.ofTraceparent?_eq_some_iff.mpr ⟨p, hs, hh, rfl⟩⟩
  · intro p hs hh
    exact ⟨p.span, Span.ofTraceparent?_eq_some_iff.mpr ⟨p, hs, hh, rfl⟩, hs.reads⟩

theorem reads_exactly_later_version :
    let s := "\u00a0 cc-4bf92f3577b34da6a3ce929d0e0e4736-00f067aa0ba902b7-a3-é- \t".toList
    let p : Parent := ⟨"cc".toList, "4bf92f3577b34da6a3ce929d0e0e4736".toList,
      "00f067aa0ba902b7".toList, "a3".toList⟩
    (p.Sound ∧ p.Heads (trim s)) ∧
    (Span.ofTraceparent? s).isSome = true ∧
    ∃ t, Span.ofTraceparent? s = some t ∧ p.Reads t ∧ t.flags = 163 ∧ t.isSampled = true := by
  intro s p
  have hv : p.Sound := {
    version := ⟨by decide, List.all_eq_true.mp (by decide)⟩
    used := by decide
    traceId := ⟨by decide, List.all_eq_true.mp (by decide), '4', by decide, by decide⟩
    spanId := ⟨by decide, List.all_eq_true.mp (by decide), 'f', by decide, by decide⟩
    flags := ⟨by decide, List.all_eq_true.mp (by decide)⟩ }
  have hh : p.Heads (trim s) := .inr ⟨by decide, "é-".toList, by decide +kernel⟩
  obtain ⟨hsome, hreads⟩ := reads_exactly s
  obtain ⟨t, ht, hr⟩ := hreads p hv hh
  have hn : Hex.value p.flags = 163 := by decide
  refine ⟨⟨hv, hh⟩, hsome.mpr ⟨p, hv, hh⟩, t, ht, hr, ?_, ?_⟩
  · exact UInt8.toNat_inj.mp (hr.flags.trans hn)
  · rw [hr.sampled, hn]
    decide

example : Span.ofTraceparent?
    "00-4bf92f3577b34da6a3ce929d0e0e4736-00f067aa0ba902b7-01-".toList = none := by decide +kernel

end Trace

end RpcServer
