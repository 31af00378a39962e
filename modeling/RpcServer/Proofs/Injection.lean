import RpcServer.Proofs.SpanPropagation

/-! Trace context written over headers that are there already. Of the old ones the `traceparent` always
goes; the `tracestate` goes only if there is a legal state to take its place. -/

namespace RpcServer

open Header

namespace Trace

def Span.stateValue? (s : Span) : Option Value := s.state.bind fun t => Value.ofText? t.toList

variable {c : Context} {h : Headers} {n : Name} {s : Span}

lemma getAll_injectSpan_traceparent (hs : s.isValid = true) (h : Headers) :
    (injectSpan s h).getAll .traceparent = [⟨Text.Utf8.encode s.traceparent⟩] := by
  have hv := (Value.text?_encode (Span.traceparent_visible hs)).2
  have hp : (put h .traceparent s.traceparent).getAll .traceparent =
      [⟨Text.Utf8.encode s.traceparent⟩] := by
    rw [getAll_put_self, hv, Option.elim_some]
  simp only [injectSpan]
  split
  · rw [getAll_put_ne (by decide), hp]
  · exact hp

lemma getAll_injectSpan_tracestate (s : Span) (h : Headers) :
    (injectSpan s h).getAll .tracestate = s.stateValue?.elim (h.getAll .tracestate) ([·]) := by
  have hp : (put h .traceparent s.traceparent).getAll .tracestate = h.getAll .tracestate :=
    getAll_put_ne (by decide) _
  simp only [injectSpan, Span.stateValue?]
  cases s.state with
  | none => exact hp
  | some t => rw [Option.bind_some, getAll_put_self, hp]

lemma getAll_injectSpan_ne (hp : n ≠ .traceparent) (ht : n ≠ .tracestate) (s : Span)
    (h : Headers) : (injectSpan s h).getAll n = h.getAll n := by
  simp only [injectSpan]
  split
  · rw [getAll_put_ne ht, getAll_put_ne hp]
  · exact getAll_put_ne hp _

lemma getAll_inject (hn : n ≠ .baggage) (hs : c.validSpan? = some s) (h : Headers) :
    (inject c h).getAll n = (injectSpan s h).getAll n := by
  rw [inject_eq, hs, Option.elim_some]
  split
  · rfl
  · exact getAll_put_ne hn _

/-- What stands in the headers once a context with a valid span is written to them. The trace state is
that of the span, or none if it has none that is legal, just where the headers had no other before. -/
theorem injection_specified (hs : c.validSpan? = some s) (h : Headers) :
    (inject c h).getAll .traceparent = [⟨Text.Utf8.encode s.traceparent⟩] ∧
    (inject c h).getAll .tracestate = s.stateValue?.elim (h.getAll .tracestate) ([·]) ∧
    ((inject c h).getAll .tracestate = s.stateValue?.toList ↔
      s.stateValue?.isSome = true ∨ h.getAll .tracestate = []) ∧
    ∀ n, n ≠ .traceparent → n ≠ .tracestate → n ≠ .baggage →
      (inject c h).getAll n = h.getAll n := by
  have hv : s.isValid = true := (Option.filter_eq_some_iff.mp hs).2
  have ht : (inject c h).getAll .tracestate = s.stateValue?.elim (h.getAll .tracestate) ([·]) := by
    rw [getAll_inject (by decide) hs, getAll_injectSpan_tracestate]
  refine ⟨?_, ht, ?_, fun n hp hn hb => ?_⟩
  · rw [getAll_inject (by decide) hs, getAll_injectSpan_traceparent hv]
  · rw [ht]
    cases s.stateValue? <;> simp
  · rw [getAll_inject hb hs, getAll_injectSpan_ne hp hn]

def traced (state : Option String) : Context :=
  { Context.new ⟨0⟩ with
    span := some ⟨"4bf92f3577b34da6a3ce929d0e0e4736", "00f067aa0ba902b7", 1, state, true⟩ }

def foreign : Headers :=
  ⟨[(.traceparent, ⟨Text.Utf8.encode "00-0af7651916cd43dd8448eb211c80319c-b7ad6b7169203331-00".toList⟩),
    (.tracestate, ⟨Text.Utf8.encode "other=1".toList⟩), (.accept, ⟨Text.Utf8.encode "a/xml".toList⟩),
    (.tracestate, ⟨Text.Utf8.encode "more=2".toList⟩)]⟩

theorem injection_specified_foreign :
    ∃ s, (traced (some "vendor=1")).validSpan? = some s ∧
      (inject (traced (some "vendor=1")) foreign).getAll .traceparent =
        [⟨Text.Utf8.encode s.traceparent⟩] ∧
      (inject (traced (some "vendor=1")) foreign).getAll .tracestate =
        [⟨Text.Utf8.encode "vendor=1".toList⟩] ∧
      (inject (traced (some "vendor=1")) foreign).getAll .accept =
        [⟨Text.Utf8.encode "a/xml".toList⟩] := by
  have hs : (traced (some "vendor=1")).validSpan? =
      some ⟨"4bf92f3577b34da6a3ce929d0e0e4736", "00f067aa0ba902b7", 1, some "vendor=1", true⟩ := by
    decide +kernel
  obtain ⟨hp, ht, -, ho⟩ := injection_specified hs foreign
  refine ⟨_, hs, hp, ht.trans (by decide), (ho .accept ?_ ?_ ?_).trans (by decide)⟩
  all_goals decide

def StateReplaced : Prop :=
  ∀ (c : Context) (s : Span) (h : Headers), c.validSpan? = some s →
    (inject c h).getAll .tracestate = s.stateValue?.toList

theorem foreign_state_kept : ¬ StateReplaced := by
  intro hr
  have hs : (traced none).validSpan? =
      some ⟨"4bf92f3577b34da6a3ce929d0e0e4736", "00f067aa0ba902b7", 1, none, true⟩ := by
    decide +kernel
  have hl := congrArg List.length (hr (traced none) _ foreign hs)
  exact absurd hl (by decide +kernel)

end Trace

end RpcServer
