import RpcServer.Proofs.HeaderText
import RpcServer.Proofs.Lineage

/-! A span on its way from one server to the next. What one server reads from a request, whatever form
it has there, is what the next one reads from the headers that the first one writes. -/

namespace RpcServer

open Text

namespace Text.Hex

lemma isBlank_of_isLowerDigit {c : Char} (h : isLowerDigit c = true) : isBlank c = false := by
  have hd : ("0123456789abcdef".toList.all fun c => !isBlank c) = true := by decide
  exact Bool.not_eq_true' _ ▸ List.all_eq_true.mp hd c (mem_digits h)

lemma hyphen_not_mem {s : List Char} (h : ∀ c ∈ s, isLowerDigit c = true) : '-' ∉ s :=
  fun hm => absurd (h '-' hm) (by decide)

end Text.Hex

namespace Trace

namespace Span

variable {s : Span}

structure Received (s : Span) : Prop where
  valid : s.isValid = true
  remote : s.remote = true
  state : ∀ t, s.state = some t →
    (∀ c ∈ t.toList, isVisible c = true) ∧ trim t.toList = t.toList ∧ t.toList ≠ []

lemma traceparent_eq (s : Span) : s.traceparent = ['0', '0'] ++
    '-' :: (s.traceId.toList ++ '-' :: (s.spanId.toList ++ '-' :: Hex.ofByte s.flags)) := by
  simp [traceparent]

lemma ids_of_isValid (h : s.isValid = true) :
    isId traceIdLength s.traceId.toList = true ∧ isId spanIdLength s.spanId.toList = true := by
  simpa only [isValid, Bool.and_eq_true] using h

lemma mem_traceparent {c : Char} (h : s.isValid = true) (hc : c ∈ s.traceparent) :
    c = '-' ∨ Hex.isLowerDigit c = true := by
  have ht := List.all_eq_true.mp (digits_of_isId (ids_of_isValid h).1)
  have hs := List.all_eq_true.mp (digits_of_isId (ids_of_isValid h).2)
  simp only [traceparent_eq, List.mem_append, List.mem_cons, List.not_mem_nil, or_false] at hc
  rcases hc with (rfl | rfl) | rfl | hc | rfl | hc | rfl | hc
  · exact .inr (by decide)
  · exact .inr (by decide)
  · exact .inl rfl
  · exact .inr (ht c hc)
  · exact .inl rfl
  · exact .inr (hs c hc)
  · exact .inl rfl
  · exact .inr (Hex.isLowerDigit_ofByte hc)

lemma traceparent_visible (h : s.isValid = true) : ∀ c ∈ s.traceparent, isVisible c = true := by
  intro c hc
  rcases mem_traceparent h hc with rfl | hd
  · decide
  · exact isVisible_of_isLowerDigit hd

lemma trim_traceparent (h : s.isValid = true) : trim s.traceparent = s.traceparent := by
  apply trim_of_not_blank
  intro c hc
  rcases mem_traceparent h hc with rfl | hd
  · decide
  · exact Hex.isBlank_of_isLowerDigit hd

lemma pieces_traceparent (h : s.isValid = true) : pieces '-' s.traceparent =
    [['0', '0'], s.traceId.toList, s.spanId.toList, Hex.ofByte s.flags] := by
  have ht := Hex.hyphen_not_mem (List.all_eq_true.mp (digits_of_isId (ids_of_isValid h).1))
  have hs := Hex.hyphen_not_mem (List.all_eq_true.mp (digits_of_isId (ids_of_isValid h).2))
  have hf : '-' ∉ Hex.ofByte s.flags := Hex.hyphen_not_mem fun c hc => Hex.isLowerDigit_ofByte hc
  rw [traceparent_eq, pieces_append (by decide), pieces_append ht, pieces_append hs,
    pieces_of_not_mem hf]

lemma ofTraceparent?_traceparent (h : s.isValid = true) :
    ofTraceparent? s.traceparent = some { s with state := none, remote := true } := by
  have hl : isLowerHex (Hex.ofByte s.flags) = true := by
    simp only [isLowerHex, Bool.and_eq_true, decide_eq_true_eq]
    exact ⟨List.cons_ne_nil _ _, List.all_eq_true.mpr fun c hc => Hex.isLowerDigit_ofByte hc⟩
  have hv : isVersion ['0', '0'] = true := by decide
  have hf : (Hex.ofByte s.flags).length = 2 := rfl
  rw [ofTraceparent?, trim_traceparent h, pieces_traceparent h, ofFields?]
  simp only [hv, ids_of_isValid h, hf, hl, List.isEmpty_nil, Bool.or_true, Bool.and_self,
    decide_true, if_true, Hex.number?_ofByte, Option.map_some, UInt8.ofNat_toNat,
    String.ofList_toList]

lemma received_withState (hv : s.isValid = true) (hr : s.remote = true) {t : Option String}
    (ht : ∀ u ∈ t, (∀ c ∈ u.toList, isVisible c = true) ∧ trim u.toList = u.toList) :
    (s.withState t).Received := by
  refine ⟨hv, hr, fun u hu => ?_⟩
  obtain ⟨hu, hb⟩ := Option.filter_eq_some_iff.mp hu
  obtain ⟨hc, hu⟩ := ht u hu
  exact ⟨hc, hu, hu ▸ of_decide_eq_true hb⟩

lemma remote_of_ofTraceparent? {t : List Char} (h : ofTraceparent? t = some s) :
    s.remote = true := by
  simp only [ofTraceparent?, ofFields?] at h
  split at h
  · split at h
    · obtain ⟨n, -, rfl⟩ := Option.map_eq_some_iff.mp h
      rfl
    · contradiction
  · contradiction

end Span

variable {h : Headers} {c : Context} {s : Span}

lemma span?_received (hs : span? h = some s) : s.Received := by
  simp only [span?] at hs
  split at hs
  · rename_i t ht
    obtain ⟨u, -, hu⟩ := Option.bind_eq_some_iff.mp ht
    obtain rfl := Option.some.inj hs
    refine Span.received_withState (Span.ofFields?_eq_some hu).1 (Span.remote_of_ofTraceparent? hu) ?_
    intro v hv
    obtain ⟨w, hw, rfl⟩ := Option.map_eq_some_iff.mp hv
    rw [String.toList_ofList]
    exact Headers.text?_visible hw
  · contradiction

lemma span_extract_new (h : Headers) (σ : Signal) : (extract (.new σ) h).span = span? h := by
  rw [extract_eq]
  exact Option.or_none

lemma traceparent_injectSpan (hs : s.isValid = true) :
    (injectSpan s h).text? .traceparent = some s.traceparent := by
  have hp : (put h .traceparent s.traceparent).text? .traceparent = some s.traceparent := by
    rw [text?_put (Span.traceparent_visible hs), Span.trim_traceparent hs]
  simp only [injectSpan]
  split
  · rw [text?_put_ne (by decide), hp]
  · exact hp

lemma span?_injectSpan (hs : s.isValid = true) : span? (injectSpan s h) =
    some (Span.withState { s with state := none, remote := true }
      (((injectSpan s h).text? .tracestate).map String.ofList)) := by
  simp only [span?, traceparent_injectSpan hs, Option.bind_some, Span.ofTraceparent?_traceparent hs]

lemma Span.Received.tracestate_injectSpan (hs : s.Received) :
    ((injectSpan s .empty).text? .tracestate).map String.ofList = s.state := by
  simp only [injectSpan]
  cases ht : s.state with
  | none =>
    simp only [text?_put_ne (show Header.Name.tracestate ≠ .traceparent by decide)]
    rfl
  | some t =>
    obtain ⟨hc, hb, -⟩ := hs.state t ht
    simp only [text?_put hc, hb, Option.map_some, String.ofList_toList]

lemma Span.Received.span?_injectSpan (hs : s.Received) : span? (injectSpan s .empty) = some s := by
  have ht : s.state.filter (fun t => trim t.toList ≠ []) = s.state := by
    cases ht : s.state with
    | none => rfl
    | some t =>
      obtain ⟨-, hb, hn⟩ := hs.state t ht
      simp [Option.filter, hb, hn]
  rw [Trace.span?_injectSpan hs.valid, hs.tracestate_injectSpan]
  simp only [withState, ht, ← hs.remote]

def relay (c : Context) (σ : Signal) : Context := extract (.new σ) (inject c .empty)

lemma inject_eq (c : Context) (h : Headers) : inject c h =
    if c.baggage.isEmpty then c.validSpan?.elim h (injectSpan · h)
    else put (c.validSpan?.elim h (injectSpan · h)) .baggage (Baggage.render c.baggage) := by
  simp only [inject, Context.validSpan?]
  cases c.span with
  | none => rfl
  | some s => cases hv : s.isValid <;> simp [Option.filter, hv]

lemma span?_inject (c : Context) :
    span? (inject c .empty) = c.validSpan?.bind fun s => span? (injectSpan s .empty) := by
  have hb : ∀ (h : Headers) (t : List Char), span? (put h .baggage t) = span? h := by
    intro h t
    simp only [span?, text?_put_ne (show Header.Name.traceparent ≠ .baggage by decide),
      text?_put_ne (show Header.Name.tracestate ≠ .baggage by decide)]
  have hs : span? (c.validSpan?.elim .empty (injectSpan · .empty)) =
      c.validSpan?.bind fun s => span? (injectSpan s .empty) := by
    cases c.validSpan? <;> rfl
  rw [inject_eq]
  split
  · exact hs
  · exact (hb _ _).trans hs

/-- A span that came with headers is handed on as it is. Of one that was bound otherwise the ids and the
flags arrive if it is valid, and nothing if it is not. -/
theorem span_survives (h : Headers) (σ τ : Signal) :
    (relay (extract (.new σ) h) τ).span = (extract (.new σ) h).span ∧
    ∀ c : Context, (relay c τ).span.map (·.withState none) =
      c.validSpan?.map fun s => Span.withState { s with remote := true } none := by
  constructor
  · rw [relay, span_extract_new, span?_inject, Context.validSpan?, span_extract_new]
    cases hs : span? h with
    | none => rfl
    | some s =>
      have hr := span?_received hs
      rw [Option.filter, if_pos hr.valid, Option.bind_some, hr.span?_injectSpan]
  · intro c
    rw [relay, span_extract_new, span?_inject]
    cases hs : c.validSpan? with
    | none => rfl
    | some s =>
      have hv := (Option.filter_eq_some_iff.mp hs).2
      rw [Option.bind_some, span?_injectSpan hv]
      rfl

-- a later version with a further field, blanks around, and a state of blanks alone
example : (inject (extract (.new ⟨0⟩) ⟨[
    (.traceparent,
      ⟨Utf8.encode " cc-4bf92f3577b34da6a3ce929d0e0e4736-00f067aa0ba902b7-a3-more\t".toList⟩),
    (.tracestate, ⟨Utf8.encode " \t".toList⟩)]⟩) .empty) = ⟨[
    (.traceparent,
      ⟨Utf8.encode "00-4bf92f3577b34da6a3ce929d0e0e4736-00f067aa0ba902b7-a3".toList⟩)]⟩ := by
  decide +kernel

end Trace

end RpcServer
