import RpcServer.Proofs.Encoding
import RpcServer.Proofs.Recovery

/-! The headers of an answered call. Whatever its handler writes, the response has one trace id, one
span id and one content type, and of every other name what the handler left. -/

namespace RpcServer

open Header Text

lemma Headers.getAll_extend (h other : Headers) (n : Name) :
    (h.extend other).getAll n =
      (if other.contains n then [] else h.getAll n) ++ other.getAll n := by
  have hf : (h.entries.filter fun e => !other.contains e.1).filter (fun e => e.1 = n) =
      if other.contains n then [] else h.entries.filter fun e => e.1 = n := by
    rw [List.filter_filter]
    cases hc : other.contains n with
    | true =>
      rw [if_pos rfl, List.filter_eq_nil_iff]
      rintro ⟨m, v⟩ -
      by_cases hm : m = n
      · simp [hm, hc]
      · simp [hm]
    | false =>
      rw [if_neg Bool.false_ne_true]
      apply List.filter_congr
      rintro ⟨m, v⟩ -
      by_cases hm : m = n
      · simp [hm, hc]
      · simp [hm]
  simp only [extend, getAll, List.filter_append, List.map_append, hf]
  split <;> rfl

structure Headers.Identified (i : Trace.Identity) (left h : Headers) : Prop where
  traceId : h.getAll .traceId = [⟨Utf8.encode i.traceId.toList⟩]
  spanId : h.getAll .spanId = [⟨Utf8.encode i.spanId.toList⟩]
  others : ∀ n, n ≠ .traceId → n ≠ .spanId → n ≠ .contentType → h.getAll n = left.getAll n

section Annotation

variable {i : Trace.Identity} {left : Headers}

lemma ReplyHeaders.set_fields (r : ReplyHeaders) {name value : String} {n : Name}
    (hn : Name.parse? name = some n) (hv : (Value.ofText? value.toList).isSome = true) :
    (r.set name value).fields = r.fields.insert n ⟨Utf8.encode value.toList⟩ := by
  obtain ⟨v, hv, hf⟩ := field_eq hn hv
  have he : v = ⟨Utf8.encode value.toList⟩ := by
    simp only [Value.ofText?] at hv
    split at hv
    · exact (Option.some.inj hv).symm
    · contradiction
  simp only [set, hf, he]

lemma Headers.Identified.insert_contentType {h : Headers} (hi : left.Identified i h) (v : Value) :
    left.Identified i (h.insert .contentType v) where
  traceId := (h.getAll_insert_ne v (by decide)).trans hi.traceId
  spanId := (h.getAll_insert_ne v (by decide)).trans hi.spanId
  others n ht hs hc := (h.getAll_insert_ne v hc).trans (hi.others n ht hs hc)

lemma Tracer.annotations_identify (hi : i.Legal) (message : Bool) (r : ReplyHeaders) :
    Headers.Identified i r.fields
      (((annotations i message).filterMap Effect.write?).foldl ReplyHeaders.write r).fields := by
  have nt : Name.parse? "Trace-Id" = some .traceId := by decide
  have ns : Name.parse? "Span-Id" = some .spanId := by decide
  have nc : Name.parse? "content-type" = some .contentType := by decide
  have ht := r.set_fields nt hi.traceId
  have hs := (r.set "Trace-Id" i.traceId).set_fields ns hi.spanId
  have hids : Headers.Identified i r.fields
      ((r.set "Trace-Id" i.traceId).set "Span-Id" i.spanId).fields := by
    rw [hs, ht]
    refine ⟨?_, ?_, ?_⟩
    · rw [Headers.getAll_insert_ne _ _ (by decide), Headers.getAll_insert_self]
    · rw [Headers.getAll_insert_self]
    · intro n hn hm _
      rw [Headers.getAll_insert_ne _ _ hm, Headers.getAll_insert_ne _ _ hn]
  cases message with
  | false => exact hids
  | true =>
    have hc := ((r.set "Trace-Id" i.traceId).set "Span-Id" i.spanId).set_fields nc
      (show (Value.ofText? "application/json".toList).isSome = true by decide)
    exact hc ▸ hids.insert_contentType _

lemma Http.Response.withReply_contentType (e : Reply.Encoded) (reply : Headers) :
    (withReply e reply).headers.getAll .contentType = [e.contentType] :=
  Headers.getAll_insert_self _ _ _

lemma Http.Response.withReply_identified (e : Reply.Encoded) {reply : Headers}
    (hi : left.Identified i reply) : left.Identified i (withReply e reply).headers := by
  -- but for its content type, the response has no header before those of the reply
  have hw : ∀ n, n ≠ .contentType → (withReply e reply).headers.getAll n = reply.getAll n := by
    intro n hn
    have he : (Headers.empty.insert .contentType e.contentType).getAll n = [] :=
      Headers.getAll_insert_ne _ _ hn
    have hx : (withReply e reply).headers.getAll n =
        ((Headers.empty.insert .contentType e.contentType).extend reply).getAll n :=
      Headers.getAll_insert_ne _ _ hn
    rw [hx, Headers.getAll_extend, he, ite_self, List.nil_append]
  exact ⟨(hw _ (by decide)).trans hi.traceId, (hw _ (by decide)).trans hi.spanId,
    fun n ht hs hc => (hw n hc).trans (hi.others n ht hs hc)⟩

end Annotation

namespace Trace

structure IsDigits (length : ℕ) (s : List Char) : Prop where
  length : s.length = length
  lower : ∀ c ∈ s, Hex.isLowerDigit c = true
  nonzero : ∃ c ∈ s, c ≠ '0'

lemma isDigits_of_isId {n : ℕ} {s : List Char} (h : isId n s = true) : IsDigits n s := by
  have hd := List.all_eq_true.mp (digits_of_isId h)
  simp only [isId, isAllZero, Bool.and_eq_true, decide_eq_true_eq, Bool.not_eq_true',
    List.all_eq_false] at h
  obtain ⟨⟨hl, -⟩, c, hc, hz⟩ := h
  exact ⟨hl, hd, c, hc, hz⟩

def Identity.Reported (i : Identity) (h : Headers) : Prop :=
  ∃ s version flags rest, h.text? .traceparent = some s ∧
    pieces '-' (trim s) = version :: i.traceId.toList :: i.spanId.toList :: flags :: rest ∧
    IsDigits 32 i.traceId.toList ∧ IsDigits 16 i.spanId.toList

lemma Span.ofFields?_eq_some {fields : List (List Char)} {s : Span}
    (h : ofFields? fields = some s) :
    s.isValid = true ∧ ∃ version flags rest,
      fields = version :: s.traceId.toList :: s.spanId.toList :: flags :: rest := by
  simp only [ofFields?] at h
  split at h
  · rename_i version traceId spanId flags rest
    split at h
    · rename_i hc
      simp only [Bool.and_eq_true] at hc
      obtain ⟨⟨⟨⟨-, ht⟩, hs⟩, -⟩, -⟩ := hc
      obtain ⟨n, -, rfl⟩ := Option.map_eq_some_iff.mp h
      refine ⟨?_, version, flags, rest, ?_⟩
      · simp only [isValid, String.toList_ofList, ht, hs, Bool.and_self]
      · simp only [String.toList_ofList]
    · contradiction
  · contradiction

lemma Identity.ofSpan_span? (h : Headers) :
    ofSpan (span? h) = .none ∧ span? h = Option.none ∨ (ofSpan (span? h)).Reported h := by
  cases hb : (h.text? .traceparent).bind Span.ofTraceparent? with
  | none =>
    have hn : span? h = Option.none := by simp only [span?, hb]
    exact .inl ⟨by rw [hn, ofSpan_none], hn⟩
  | some s =>
    obtain ⟨t, ht, hf⟩ := Option.bind_eq_some_iff.mp hb
    obtain ⟨hv, version, flags, rest, hp⟩ := Span.ofFields?_eq_some hf
    have hi : ofSpan (span? h) = ⟨s.traceId, s.spanId⟩ := by
      simp only [span?, hb, ofSpan]
      exact if_pos hv
    simp only [Span.isValid, Bool.and_eq_true] at hv
    rw [hi]
    exact .inr ⟨t, version, flags, rest, ht, hp, isDigits_of_isId hv.1, isDigits_of_isId hv.2⟩

example : Identity.ofSpan (span? ⟨[(.traceparent,
    ⟨Utf8.encode "00-4bf92f3577b34da6a3ce929d0e0e4736-00f067aa0ba902b7-01".toList⟩)]⟩) =
      ⟨"4bf92f3577b34da6a3ce929d0e0e4736", "00f067aa0ba902b7"⟩ := by decide

end Trace

lemma Operation.recovered_returned {e : Halt × Exchange} (h : e.1 ≠ .abandoned) :
    ∃ result, (recovered e).1 = .returned result ∧ (recovered e).2.reply = e.2.reply := by
  obtain ⟨halt, y⟩ := e
  cases halt with
  | returned result => exact ⟨result, rfl, rfl⟩
  | panicked p => exact ⟨.error panicked, rfl, rfl⟩
  | abandoned => exact absurd rfl h

lemma Tracer.finish_identified (tr : Tracer) {k : Call} (hk : k.identity.Legal)
    (result : Except ServiceError Payload) (y : Exchange) :
    y.reply.fields.Identified k.identity (tr.finish k (.returned result) y).reply.fields := by
  rw [(finish_emits hk (.returned result) y).reply, closing_writes]
  exact annotations_identify hk (isMessage result) y.reply

namespace Http.Dispatcher

variable {d : Dispatcher} {r : Request}

lemma encoding_steady (he : d.encoder.Steady r.headers) (result : Except ServiceError Payload) :
    ∃ e events, d.encoding r result = .ok (e, events) ∧ d.encoder.Makes r.headers e := by
  cases result with
  | ok reply => exact he.encodeSuccess reply
  | error e => exact he.encodeError e

structure Labelled (d : Dispatcher) (r : Request) (i : Trace.Identity) (left : Headers)
    (response : Response) : Prop where
  identified : left.Identified i response.headers
  contentType : ∃ e, d.encoder.Makes r.headers e ∧ response.body = e.body ∧
    response.headers.getAll .contentType = [e.contentType]

variable {limit : Instant} {route : Route} {w : World} {k : Tracer.Call} {v : Json}
  {x y : Exchange} {h : Halt}

lemma dispatch_labelled (hs : d.started? route r w = some (k, .document v, x))
    (hr : (route.handler k.context v).run k.context limit (Operation.called k.context v x) =
      (h, y))
    (hh : h ≠ .abandoned) (he : d.encoder.Steady r.headers) :
    ∃ response, (d.dispatch limit route r w).1 = .answered response ∧
      d.Labelled r k.identity y.reply.fields response := by
  have hk : k.identity.Legal := started_identity hs ▸ Trace.Identity.ofSpan_legal _
  -- a result of the handler or the error of its panic: the reply headers are those of `y`
  obtain ⟨result, hres, hreply⟩ := Operation.recovered_returned (e := (h, y)) hh
  obtain ⟨e, events, hm, hmakes⟩ := encoding_steady he result
  have hd := dispatch_of_ended (ended_of_handled hs hr).1
  have hf := Tracer.finish_identified d.tracer hk result (Operation.recovered (h, y)).2
  rw [hres] at hd
  rw [hd, answer_fst, hm]
  rw [hreply] at hf
  exact ⟨_, rfl, Response.withReply_identified e hf, e, hmakes, rfl,
    Response.withReply_contentType e _⟩

/-- The call of a handler that ends in `y`, in whatever way: its response and its span have the ids
that the handler sees, which are those of the request if it has any. -/
theorem response_identity (d : Dispatcher) (limit : Instant) (route : Route) (r : Request)
    (w : World) {k : Tracer.Call} {v : Json} {x y : Exchange} {h : Halt}
    (hs : d.started? route r w = some (k, .document v, x))
    (hr : (route.handler k.context v).run k.context limit (Operation.called k.context v x) =
      (h, y))
    (hh : h ≠ .abandoned) (he : d.encoder.Steady r.headers) :
    let i := k.context.identity
    (∃ response, (d.dispatch limit route r w).1 = .answered response ∧
      d.Labelled r i y.reply.fields response) ∧
    x.span = some (Log.callSpan route.operation i.traceId i.spanId) ∧ y.span = x.span ∧
    (i = .none ∧ Trace.span? r.headers = none ∨ i.Reported r.headers) := by
  obtain ⟨v', deadline, -, -, -, hc, -, hx⟩ := started_of hs
  have hi : k.context.identity = k.identity := by
    rw [hc]
    rfl
  refine ⟨hi ▸ dispatch_labelled hs hr hh he, ?_, ?_, ?_⟩
  · rw [hx, hc]
    rfl
  · obtain ⟨own, ho⟩ := Program.run_handled k.context limit (route.handler k.context v)
      (Operation.called k.context v x)
    rw [hr] at ho
    exact ho.span
  · rw [hi, started_identity hs]
    exact Trace.Identity.ofSpan_span? r.headers

theorem response_identity_forged :
    let d : Dispatcher := ⟨⟨.new, ⟨none, 500⟩, 0, "ok"⟩, {}, "http://localhost", 5, 0⟩
    let w := World.start 0 .discard
    let parent := "00-4bf92f3577b34da6a3ce929d0e0e4736-00f067aa0ba902b7-01"
    let r : Request :=
      ⟨"POST", ⟨"/hello", none⟩, ⟨[(.traceparent, ⟨Utf8.encode parent.toList⟩)]⟩, []⟩
    let vary : Name := ⟨"vary"⟩
    let burst : Route := ⟨"/Greeter/Hello", .any, fun _ _ =>
      .act (.write (.set "trace-id" "forged")) (.act (.write (.append vary ⟨[0x61]⟩))
        (.act (.write (.append vary ⟨[0x62]⟩)) (.act (.write .poison) (.panic (.text "burst")))))⟩
    ∃ k v x y, d.started? burst r w = some (k, .document v, x) ∧
      (burst.handler k.context v).run k.context 9 (Operation.called k.context v x) =
        (.panicked (.text "burst"), y) ∧
      y.reply.fields.getAll vary = [⟨[0x61]⟩, ⟨[0x62]⟩] ∧ d.encoder.Steady r.headers ∧
      let i := k.context.identity
      (∃ response, (d.dispatch 9 burst r w).1 = .answered response ∧
        d.Labelled r i y.reply.fields response) ∧
      x.span = some (Log.callSpan burst.operation i.traceId i.spanId) ∧ y.span = x.span ∧
      (i = .none ∧ Trace.span? r.headers = none ∨ i.Reported r.headers) := by
  intro d w parent r vary burst
  have ht : (World.start 0 .discard).issue.2.after? 5 = some 5000 := rfl
  have hb : input burst.shape 0 r = .ok (.object []) := rfl
  have hs := started?_eq (d := d) hb ht rfl
  have hc : Reply.Codecs.new.forRequest r.headers = .json := rfl
  have he : d.encoder.Steady r.headers := by
    refine ⟨fun e => ⟨_, rfl⟩, ?_, ?_⟩
    · intro v
      rw [hc]
      exact ⟨_, rfl⟩
    · rw [hc]
      decide
  exact ⟨_, _, _, _, hs, rfl, by decide, he, response_identity d 9 burst r w hs rfl nofun he⟩

end Http.Dispatcher

end RpcServer
