import RpcServer.Proofs.HeaderTable
import RpcServer.Proofs.Observation

/-! Two calls that differ in the values of redacted headers, side by side. What is logged of them is
the same unless the list has a header that is also read for the caller's address or for the trace. -/

namespace RpcServer

namespace Trace

lemma identity_withState (s : Span) (state : Option String) :
    Identity.ofSpan (some (s.withState state)) = Identity.ofSpan (some s) := rfl

lemma identity_sameBut {names : List String} {g h : Headers} {c d : Context}
    (hc : c.span = d.span) (hs : g.SameBut names h)
    (hn : Log.isRedacted names .traceparent = false) :
    (extract c g).identity = (extract d h).identity := by
  have hv : c.hasValidSpan = d.hasValidSpan := by simp only [Context.hasValidSpan, hc]
  simp only [Context.identity, extract_span, hv, hc]
  cases d.hasValidSpan with
  | true => rfl
  | false =>
    simp only [Bool.false_eq_true, ↓reduceIte, span?, hs.text? hn]
    cases (h.text? .traceparent).bind Span.ofTraceparent? with
    | none => rfl
    | some s => exact (identity_withState s _).trans (identity_withState s _).symm

end Trace

lemma clientAddress_sameBut {names : List String} {g h : Headers} (hs : g.SameBut names h)
    (hf : Log.isRedacted names .forwardedFor = false)
    (hr : Log.isRedacted names .realIp = false) : clientAddress g = clientAddress h := by
  simp only [clientAddress, List.filterMap_cons, List.filterMap_nil, hs.text? hf, hs.text? hr]

structure Visit where
  world : World
  limit : Instant
  inner : Context → Payload → Program
  context : Context
  transport : Transport
  request : Payload

namespace Visit

variable (tr : Tracer) (v : Visit)

def call : Tracer.Call :=
  .start (v.context.withTransport v.transport) v.transport v.world.now

def entered : Exchange := tr.enter v.call v.request (.start v.world)

def ran : Halt × Exchange :=
  (v.inner v.call.context v.request).run v.call.context v.limit (v.entered tr)

def events : List Log.Event :=
  (tr.opening v.call v.request none ++ tr.closing v.call (v.ran tr).2 (v.ran tr).1).filterMap
    Effect.event?

/-- Two calls that are let in and differ, in what comes with them and in what their handlers reply,
in the values of redacted headers at most. -/
structure Alike (v w : Visit) : Prop where
  live : v.world.done? (v.context.withTransport v.transport) = none ∧
    w.world.done? (w.context.withTransport w.transport) = none
  context : v.context = w.context
  transport : v.transport = { w.transport with headers := v.transport.headers }
  request : v.request = w.request
  headers : v.transport.headers.SameBut tr.redactedHeaders w.transport.headers
  result : (v.ran tr).1 = (w.ran tr).1
  reply : (v.ran tr).2.reply.fields.SameBut tr.redactedHeaders (w.ran tr).2.reply.fields

theorem serve_visit (hd : v.world.done? (v.context.withTransport v.transport) = none) :
    ∃ own, (tr.serve v.limit v.inner (v.context.withTransport v.transport) v.request
        (.start v.world)).2.world.trace =
      v.world.trace ++ (tr.opening v.call v.request none ++ own ++
        tr.closing v.call (v.ran tr).2 (v.ran tr).1) ∧
      ∀ e ∈ own, e.OfHandler v.call.context (v.entered tr).span := by
  have hs : tr.serve v.limit v.inner (v.context.withTransport v.transport) v.request
      (.start v.world) = _ := Tracer.serve_eq hd rfl
  obtain ⟨own, ho⟩ := Program.run_handled v.call.context v.limit
    (v.inner v.call.context v.request) (v.entered tr)
  have hb : (Exchange.start v.world).Emits _ (v.entered tr) :=
    Tracer.enter_emits v.call v.request (.start v.world)
  have ha : (v.ran tr).2.Emits _ (tr.finish v.call (v.ran tr).1 (v.ran tr).2) :=
    Tracer.finish_emits v.call.context.identity_legal (v.ran tr).1 (v.ran tr).2
  refine ⟨own, ?_, ho.own⟩
  rw [hs]
  exact ((hb.trans ho.emits).trans ha).trace

def completion : Halt → List Log.Event
  | .returned r => [tr.completed v.transport r (v.ran tr).2.reply.fields]
  | .panicked _ | .abandoned => []

lemma events_eq : v.events tr =
    tr.received v.transport v.request :: v.completion tr (v.ran tr).1 := by
  have hl : ∀ e es, (Effect.logged e :: es).filterMap Effect.event? =
      e :: es.filterMap Effect.event? := fun _ _ => rfl
  have hm : ∀ rs, (tr.measured rs).filterMap Effect.event? = [] := by
    intro rs
    simp only [Tracer.measured]
    split <;> simp [Effect.event?]
  have ha : ∀ i message, (Tracer.annotations i message).filterMap Effect.event? = [] := by
    intro i message
    cases message <;> rfl
  rw [events, List.filterMap_append, Tracer.opening, hl, hm, List.singleton_append]
  refine congrArg₂ List.cons rfl ?_
  cases (v.ran tr).1 with
  | returned r =>
    cases r <;> rw [Tracer.closing, hl, List.filterMap_append, hm, ha] <;> rfl
  | panicked | abandoned =>
    rw [Tracer.closing, List.filterMap_append, hm, ha]
    rfl

lemma span_eq : (v.entered tr).span = some (Log.callSpan v.transport.operation
    v.call.identity.traceId v.call.identity.spanId) := rfl

def SameLog (v w : Visit) : Prop :=
  v.events tr = w.events tr ∧ (v.entered tr).span = (w.entered tr).span

variable {tr} {v w : Visit}

lemma Alike.operation (h : v.Alike tr w) : v.transport.operation = w.transport.operation := by
  rw [h.transport]

lemma Alike.endpoint (h : v.Alike tr w) : v.transport.endpoint = w.transport.endpoint := by
  rw [h.transport]

lemma Alike.received_iff (h : v.Alike tr w) :
    tr.received v.transport v.request = tr.received w.transport w.request ↔
      clientAddress v.transport.headers = clientAddress w.transport.headers := by
  simp only [Tracer.received, h.operation, h.endpoint, h.request, Log.headers_sameBut h.headers,
    Log.Event.mk.injEq, List.cons.injEq, Prod.mk.injEq, Log.Field.shown.injEq, true_and, and_true]

lemma Alike.completion (h : v.Alike tr w) :
    v.completion tr (v.ran tr).1 = w.completion tr (w.ran tr).1 := by
  rw [h.result]
  cases (w.ran tr).1 with
  | returned r =>
    simp only [Visit.completion, Tracer.completed, h.operation, h.endpoint,
      Log.headers_sameBut h.reply]
  | panicked | abandoned => rfl

lemma Alike.sameLog_iff (h : v.Alike tr w) :
    v.SameLog tr w ↔ clientAddress v.transport.headers = clientAddress w.transport.headers ∧
      v.call.identity = w.call.identity := by
  have he : v.events tr = w.events tr ↔
      clientAddress v.transport.headers = clientAddress w.transport.headers := by
    rw [v.events_eq, w.events_eq, h.completion, List.cons.injEq, h.received_iff]
    exact and_iff_left rfl
  have hi : (v.entered tr).span = (w.entered tr).span ↔ v.call.identity = w.call.identity := by
    rw [v.span_eq, w.span_eq, h.operation]
    cases v.call.identity
    cases w.call.identity
    simp [Log.callSpan]
  rw [SameLog, he, hi]

lemma Alike.identity (h : v.Alike tr w)
    (hp : Log.isRedacted tr.redactedHeaders .traceparent = false) :
    v.call.identity = w.call.identity := by
  have hc : (v.context.withTransport v.transport).span =
      (w.context.withTransport w.transport).span := by
    simp only [Context.withTransport, h.context]
  exact Trace.identity_sameBut hc h.headers hp

def greeting (h : Headers) : Visit where
  world := .start 0 .discard
  limit := 0
  inner _ _ := .reply .unit
  context := .new ⟨0⟩
  transport := ⟨.http, "http://localhost", "/Greeter/Hello", "POST", "/hello", h⟩
  request := .unit

lemma greeting_alike {g h : Headers} (hs : g.SameBut tr.redactedHeaders h) :
    (greeting g).Alike tr (greeting h) where
  live := ⟨rfl, rfl⟩
  context := rfl
  transport := rfl
  request := rfl
  headers := hs
  result := rfl
  reply := by
    have hr : ∀ h, ((greeting h).ran tr).2.reply = .empty := by
      intro h
      have he : (Exchange.start (.start 0 .discard)).Emits _ ((greeting h).entered tr) :=
        Tracer.enter_emits (greeting h).call .unit _
      have hw := he.reply
      rw [Tracer.opening_writes] at hw
      exact hw
    rw [hr, hr]
    exact Headers.SameBut.refl _ _

def single (n : Header.Name) (s : String) : Visit :=
  greeting ⟨[(n, ⟨Text.Utf8.encode s.toList⟩)]⟩

lemma single_alike {n : Header.Name} (hn : Log.isRedacted tr.redactedHeaders n = true)
    (s t : String) : (single n s).Alike tr (single n t) :=
  greeting_alike (Headers.sameBut_single hn _ _)

end Visit

namespace Tracer

open Visit

def Discreet (tr : Tracer) : Prop := ∀ v w : Visit, v.Alike tr w → v.SameLog tr w

/-- The values of redacted headers get into the log as the caller's address and as the ids of the
trace, and in no other way. -/
theorem discreet_iff (tr : Tracer) :
    (∀ v w : Visit, v.Alike tr w → (v.SameLog tr w ↔
      clientAddress v.transport.headers = clientAddress w.transport.headers ∧
        v.call.identity = w.call.identity)) ∧
    (tr.Discreet ↔ ∀ n ∈ [Header.Name.forwardedFor, .realIp, .traceparent],
      Log.isRedacted tr.redactedHeaders n = false) := by
  refine ⟨fun v w h => h.sameLog_iff, ?_, ?_⟩
  · intro hd n hn
    apply Bool.eq_false_iff.mpr
    intro hr
    -- two calls that carry this header alone would have to show the same address and ids
    have differ : ∀ s t,
        clientAddress (single n s).transport.headers =
            clientAddress (single n t).transport.headers ∧
          (single n s).call.identity = (single n t).call.identity :=
      fun s t => (single_alike hr s t).sameLog_iff.mp (hd _ _ (single_alike hr s t))
    simp only [List.mem_cons, List.not_mem_nil, or_false] at hn
    rcases hn with rfl | rfl | rfl
    · exact absurd (differ "203.0.113.7" "198.51.100.4").1 (by decide)
    · exact absurd (differ "203.0.113.7" "198.51.100.4").1 (by decide)
    · exact absurd (differ "00-4bf92f3577b34da6a3ce929d0e0e4736-00f067aa0ba902b7-01"
        "00-0af7651916cd43dd8448eb211c80319c-b7ad6b7169203331-01").2 (by decide)
  · intro hn v w h
    have hf := hn .forwardedFor (by simp)
    have hr := hn .realIp (by simp)
    have hp := hn .traceparent (by simp)
    exact h.sameLog_iff.mpr ⟨clientAddress_sameBut h.headers hf hr, h.identity hp⟩

theorem forwardedFor_leaks :
    let tr : Tracer := { redactedHeaders := ["X-Forwarded-For"] }
    let v := single .forwardedFor "203.0.113.7"
    let w := single .forwardedFor "198.51.100.4"
    v.Alike tr w ∧ v.events tr ≠ w.events tr := by
  intro tr v w
  have h : v.Alike tr w := single_alike (by decide) _ _
  refine ⟨h, ?_⟩
  intro he
  rw [v.events_eq, w.events_eq, List.cons.injEq, h.received_iff] at he
  exact absurd he.1 (by decide)

end Tracer

end RpcServer
