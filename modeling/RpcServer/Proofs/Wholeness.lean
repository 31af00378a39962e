import Mathlib.Tactic.Common
import RpcServer.Proofs.Encoding

/-! Body and content type of an encoded reply belong together: both come from the codec, or both are the
fixed ones. What can keep a reply from being encoded at all is a codec whose content type may not stand
in a header. -/

namespace RpcServer

lemma Header.Value.bytes_of_ofVisible? {s : List Char} {v : Value} (h : ofVisible? s = some v) :
    v.bytes = Text.Utf8.encode s := by
  simp only [ofVisible?] at h
  split at h
  · rw [← Option.some.inj h]
  · cases h

namespace Reply

open Header

lemma Codecs.forRequest_mem (cs : Codecs) (h : Headers) :
    cs.forRequest h ∈ cs.registered ∨ cs.forRequest h = .json := by
  simp only [forRequest]
  cases hs : (accepted h).findSome? cs.get? with
  | none => exact .inr rfl
  | some c =>
    obtain ⟨name, -, hc⟩ := List.exists_of_findSome?_eq_some hs
    exact .inl (List.mem_of_find?_eq_some hc)

lemma Encoded.fallback_eq :
    fallback = ⟨200, .json, Text.Utf8.encode "\x7b\"code\":500\x7d".toList⟩ := by decide

namespace Encoder

structure Calm (r : Encoder) : Prop where
  resolves : ∀ e, ∃ code, r.resolver.resolve (some e) = .ok code
  marshals : ∀ c ∈ r.codecs.registered, ∀ v, ∃ result, c.marshal v = .ok result

variable {r : Encoder} {h : Headers}

lemma Calm.marshal (hr : r.Calm) (h : Headers) (v : Json) :
    ∃ result, (r.codecs.forRequest h).marshal v = .ok result := by
  rcases r.codecs.forRequest_mem h with hm | hj
  · exact hr.marshals _ hm v
  · rw [hj]
    exact ⟨_, rfl⟩

def written? (r : Encoder) (h : Headers) (v : Option Envelope) : Option (List UInt8) :=
  v.bind fun v =>
    match (r.codecs.forRequest h).marshal v.toJson with
    | .ok (.ok body) => some body
    | _ => none

/-- The encoding of an envelope, or of what has none, panics only over the content type of a body that
was written. Otherwise it has body and content type of the codec, or those that are fixed. -/
structure Whole (r : Encoder) (h : Headers) (v : Option Envelope)
    (out : Except Panic (Encoded × List Log.Event)) : Prop where
  panics_iff : (∃ p, out = .error p) ↔ (r.written? h v).isSome = true ∧
    Value.ofVisible? (r.codecs.forRequest h).contentType.toList = none
  status : ∀ e events, out = .ok (e, events) → e.status = 200
  ofCodec : ∀ e events body, out = .ok (e, events) → r.written? h v = some body →
    e.body = body ∧
      e.contentType.bytes = Text.Utf8.encode (r.codecs.forRequest h).contentType.toList
  fixed : ∀ e events, out = .ok (e, events) → r.written? h v = none →
    e.body = Text.Utf8.encode "\x7b\"code\":500\x7d".toList ∧ e.contentType = .json

lemma whole_fallback {v : Option Envelope} (hv : r.written? h v = none) (events : List Log.Event) :
    r.Whole h v (.ok (.fallback, events)) where
  panics_iff := by simp [hv]
  status := by
    rintro e _ ⟨⟩
    rfl
  ofCodec := by simp [hv]
  fixed := by
    rintro e _ ⟨⟩ -
    rw [Encoded.fallback_eq]
    exact ⟨rfl, rfl⟩

lemma whole_encode (hr : r.Calm) (h : Headers) (v : Envelope) :
    r.Whole h (some v) (r.encode h v) := by
  obtain ⟨result, hm⟩ := hr.marshal h v.toJson
  cases result with
  | error e =>
    have hw : r.written? h (some v) = none := by simp [written?, hm]
    simp only [encode, hm]
    exact whole_fallback hw _
  | ok body =>
    have hw : r.written? h (some v) = some body := by simp [written?, hm]
    cases ht : Value.ofVisible? (r.codecs.forRequest h).contentType.toList with
    | none =>
      have he : r.encode h v = .error .illegalHeaderValue := by
        simp only [encode, hm, Encoded.ofCodec, ht, Except.map]
      rw [he]
      exact ⟨by simp [hw, ht], by simp, by simp, by simp⟩
    | some t =>
      rw [encode_of_writes ⟨body, t, hm, ht, rfl⟩]
      refine ⟨by simp [ht], ?_, ?_, by simp [hw]⟩
      · rintro e _ ⟨⟩
        rfl
      · rintro e _ written ⟨⟩ hb
        exact ⟨Option.some.inj (hw.symm.trans hb), Value.bytes_of_ofVisible? ht⟩

/-- If nothing else panics, the encoding of a reply or an error fails only where a codec has written a
body and names a content type that is not legal. -/
theorem encoding_whole (r : Encoder) (hr : r.Calm) (h : Headers) :
    (∀ reply, r.Whole h (r.successEnvelope reply).toOption (r.encodeSuccess h reply)) ∧
    ∀ err, ∃ code, r.resolver.resolve (some err) = .ok code ∧
      r.Whole h (some (.codeOnly code)) (r.encodeError h err) := by
  refine ⟨fun reply => ?_, fun err => ?_⟩
  · cases hv : r.successEnvelope reply with
    | error f =>
      rw [encodeSuccess_of_error hv h]
      exact whole_fallback rfl _
    | ok v =>
      simp only [encodeSuccess, hv]
      exact whole_encode hr h v
  · obtain ⟨code, hc⟩ := hr.resolves err
    refine ⟨code, hc, ?_⟩
    simp only [encodeError, hc]
    exact whole_encode hr h _

def withXml (contentType : String) : Encoder :=
  { ofConfig {} with
    codecs := Codecs.new.register ⟨"xml", contentType, Codec.json.marshal⟩ }

def acceptsXml : Headers := ⟨[(.accept, ⟨Text.Utf8.encode "a/xml".toList⟩)]⟩

lemma withXml_calm (contentType : String) : (withXml contentType).Calm where
  resolves _ := ⟨_, rfl⟩
  marshals := by
    intro c hc v
    have hm : c.marshal = Codec.json.marshal := by
      rcases List.mem_append.mp hc with hc | hc
      · rw [List.mem_singleton.mp (List.mem_filter.mp hc |>.1)]
      · rw [List.mem_singleton.mp hc]
    exact ⟨_, congrFun hm v⟩

theorem encoding_whole_xml :
    let legal := withXml "text/xml"
    let illegal := withXml "bad\nvalue"
    let null : Payload := .document .null
    legal.Calm ∧
      legal.Whole acceptsXml (legal.successEnvelope null).toOption
        (legal.encodeSuccess acceptsXml null) ∧
      (∀ p, legal.encodeSuccess acceptsXml null ≠ .error p) ∧
      illegal.Calm ∧ ∃ p, illegal.encodeSuccess acceptsXml null = .error p := by
  intro legal illegal null
  have hl := (encoding_whole legal (withXml_calm _) acceptsXml).1 null
  have hi := (encoding_whole illegal (withXml_calm _) acceptsXml).1 null
  have ht : (Value.ofVisible? "text/xml".toList).isSome = true := by decide
  have hn : Value.ofVisible? "bad\nvalue".toList = none := by decide
  refine ⟨withXml_calm _, hl, fun p hp => ?_, withXml_calm _, hi.panics_iff.mpr ⟨rfl, hn⟩⟩
  exact Option.not_isSome_iff_eq_none.mpr (hl.panics_iff.mp ⟨p, hp⟩).2 ht

def AlwaysEncodes : Prop :=
  ∀ (r : Encoder) (h : Headers), r.Calm →
    (∀ reply, ∃ e events, r.encodeSuccess h reply = .ok (e, events)) ∧
    ∀ err, ∃ e events, r.encodeError h err = .ok (e, events)

theorem illegal_contentType_panics : ¬ AlwaysEncodes := by
  intro h
  obtain ⟨e, events, he⟩ :=
    (h (withXml "bad\nvalue") acceptsXml (withXml_calm _)).1 (.document (.int 1))
  have hp : (withXml "bad\nvalue").encodeSuccess acceptsXml (.document (.int 1)) =
      .error .illegalHeaderValue := rfl
  rw [hp] at he
  cases he

end Encoder

end Reply

end RpcServer
