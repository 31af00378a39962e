import Mathlib.Tactic.Common
import RpcServer.Reply.Encoder

/-! The bodies that a reply is encoded to. One is written by the codec that the request accepts, or
it is the fixed one. -/

namespace RpcServer.Reply

def Envelope.codeBody (code : Int32) : List UInt8 := Text.Utf8.encode (codeOnly code).render

namespace Encoder

open Header

def Writes (r : Encoder) (h : Headers) (v : Envelope) (e : Encoded) : Prop :=
  ∃ body t, (r.codecs.forRequest h).marshal v.toJson = .ok (.ok body) ∧
    Value.ofVisible? (r.codecs.forRequest h).contentType.toList = some t ∧ e = ⟨200, t, body⟩

def Makes (r : Encoder) (h : Headers) (e : Encoded) : Prop := e = .fallback ∨ ∃ v, r.Writes h v e

variable {r : Encoder} {h : Headers} {v : Envelope} {e : Encoded} {events : List Log.Event}

lemma encode_of_writes (hw : r.Writes h v e) : r.encode h v = .ok (e, []) := by
  obtain ⟨body, t, hm, ht, rfl⟩ := hw
  simp only [encode, hm, Encoded.ofCodec, ht, Except.map]

lemma encode_json (hj : r.codecs.forRequest h = .json) (v : Envelope) :
    r.encode h v = .ok (⟨200, .json, Text.Utf8.encode v.render⟩, []) := by
  apply encode_of_writes
  refine ⟨Text.Utf8.encode v.render, .json, ?_, ?_, rfl⟩
  · rw [hj]
    rfl
  · rw [hj]
    decide

lemma encode_eq_ok (he : r.encode h v = .ok (e, events)) : e = .fallback ∨ r.Writes h v e := by
  simp only [encode] at he
  split at he
  · contradiction
  · simp only [Except.ok.injEq, Prod.mk.injEq] at he
    exact .inl he.1.symm
  · rename_i body hm
    cases ht : Value.ofVisible? (r.codecs.forRequest h).contentType.toList with
    | none => simp [Encoded.ofCodec, ht, Except.map] at he
    | some t =>
      simp only [Encoded.ofCodec, ht, Except.map, Except.ok.injEq, Prod.mk.injEq] at he
      exact .inr ⟨body, t, hm, ht, he.1.symm⟩

lemma encodeSuccess_eq_ok {reply : Payload} (he : r.encodeSuccess h reply = .ok (e, events)) :
    e = .fallback ∨ ∃ v, r.successEnvelope reply = .ok v ∧ r.Writes h v e := by
  simp only [encodeSuccess] at he
  split at he
  · rename_i v hv
    exact (encode_eq_ok he).imp_right fun hw => ⟨v, hv, hw⟩
  · simp only [Except.ok.injEq, Prod.mk.injEq] at he
    exact .inl he.1.symm

lemma encodeError_eq_ok {err : ServiceError} (he : r.encodeError h err = .ok (e, events)) :
    r.Makes h e := by
  simp only [encodeError] at he
  split at he
  · exact (encode_eq_ok he).imp_right fun hw => ⟨_, hw⟩
  · contradiction

lemma encode_events (he : r.encode h v = .ok (e, events)) :
    ∀ ev ∈ events, ev.target = Log.Target.envelope := by
  simp only [encode] at he
  split at he
  · contradiction
  · simp only [Except.ok.injEq, Prod.mk.injEq] at he
    simp [← he.2, envelopeEvent]
  · rename_i body _
    cases hc : Encoded.ofCodec (r.codecs.forRequest h).contentType body with
    | error p => simp [hc, Except.map] at he
    | ok made =>
      simp only [hc, Except.map, Except.ok.injEq, Prod.mk.injEq] at he
      simp [← he.2]

lemma encodeError_events {err : ServiceError} (he : r.encodeError h err = .ok (e, events)) :
    ∀ ev ∈ events, ev.target = Log.Target.envelope := by
  simp only [encodeError] at he
  split at he
  · exact encode_events he
  · contradiction

/-- Neither the rule for codes nor the codec for a request with these headers panics, and the
codec's content type is legal. -/
structure Steady (r : Encoder) (h : Headers) : Prop where
  resolves : ∀ e, ∃ code, r.resolver.resolve (some e) = .ok code
  marshals : ∀ v, ∃ result, (r.codecs.forRequest h).marshal v = .ok result
  contentType : (Value.ofVisible? (r.codecs.forRequest h).contentType.toList).isSome = true

lemma Steady.encode_ok (hs : r.Steady h) (v : Envelope) :
    ∃ e events, r.encode h v = .ok (e, events) := by
  obtain ⟨result, hm⟩ := hs.marshals v.toJson
  obtain ⟨t, ht⟩ := Option.isSome_iff_exists.mp hs.contentType
  cases result with
  | error e =>
    exact ⟨.fallback, [envelopeEvent (r.codecs.forRequest h) e], by simp only [encode, hm]⟩
  | ok body => exact ⟨_, _, encode_of_writes ⟨body, t, hm, ht, rfl⟩⟩

lemma Steady.encodeSuccess (hs : r.Steady h) (reply : Payload) :
    ∃ e events, r.encodeSuccess h reply = .ok (e, events) ∧ r.Makes h e := by
  have hok : ∃ e events, r.encodeSuccess h reply = .ok (e, events) := by
    cases hv : r.successEnvelope reply with
    | error f => exact ⟨_, _, encodeSuccess_of_error hv h⟩
    | ok v =>
      simp only [Encoder.encodeSuccess, hv]
      exact hs.encode_ok v
  obtain ⟨e, events, he⟩ := hok
  refine ⟨e, events, he, (encodeSuccess_eq_ok he).imp_right ?_⟩
  rintro ⟨v, -, hw⟩
  exact ⟨v, hw⟩

lemma Steady.encodeError (hs : r.Steady h) (err : ServiceError) :
    ∃ e events, r.encodeError h err = .ok (e, events) ∧ r.Makes h e := by
  obtain ⟨code, hc⟩ := hs.resolves err
  obtain ⟨e, events, he⟩ := hs.encode_ok (.codeOnly code)
  have hr : r.encodeError h err = .ok (e, events) := by simp only [Encoder.encodeError, hc, he]
  exact ⟨e, events, hr, encodeError_eq_ok hr⟩

end Encoder

end RpcServer.Reply
