import RpcServer.Proofs.Emission
import RpcServer.Proofs.Identity
import RpcServer.Tracer

/-! What observation does around a handler, in order, and that it changes nothing about the handler's
call or its result. -/

namespace RpcServer

open Metrics Exchange

namespace Trace

lemma withBaggage_keeps (c : Context) (b : Baggage) :
    (c.withBaggage b).signal = c.signal ∧ (c.withBaggage b).deadline = c.deadline ∧
      (c.withBaggage b).transport = c.transport ∧ (c.withBaggage b).span = c.span := by
  simp only [Context.withBaggage]
  split <;> exact ⟨rfl, rfl, rfl, rfl⟩

lemma extract_keeps (c : Context) (h : Headers) :
    (extract c h).signal = c.signal ∧ (extract c h).deadline = c.deadline ∧
      (extract c h).transport = c.transport := by
  have hs : ∀ s : Span, (c.withSpan s).signal = c.signal ∧
      (c.withSpan s).deadline = c.deadline ∧ (c.withSpan s).transport = c.transport := by
    intro s
    simp only [Context.withSpan]
    split <;> exact ⟨rfl, rfl, rfl⟩
  cases hv : c.hasValidSpan with
  | true =>
    rw [extract_of_hasValidSpan h hv]
    exact ⟨rfl, rfl, rfl⟩
  | false =>
    simp only [extract, hv, Bool.false_eq_true, ↓reduceIte]
    cases span? h with
    | none =>
      split
      · exact ⟨rfl, rfl, rfl⟩
      · obtain ⟨h1, h2, h3, -⟩ := withBaggage_keeps c (Baggage.ofHeaders h)
        exact ⟨h1, h2, h3⟩
    | some s =>
      obtain ⟨h1, h2, h3⟩ := hs s
      split
      · exact ⟨h1, h2, h3⟩
      · obtain ⟨k1, k2, k3, -⟩ := withBaggage_keeps (c.withSpan s) (Baggage.ofHeaders h)
        exact ⟨k1.trans h1, k2.trans h2, k3.trans h3⟩

lemma extract_span (c : Context) (h : Headers) :
    (extract c h).span = if c.hasValidSpan then c.span else (span? h).or c.span := by
  cases hv : c.hasValidSpan with
  | true =>
    rw [extract_of_hasValidSpan h hv]
    rfl
  | false =>
    have hb : ∀ c : Context, (if (Baggage.ofHeaders h).isEmpty then c
        else c.withBaggage (Baggage.ofHeaders h)).span = c.span := by
      intro c
      split
      · rfl
      · exact (withBaggage_keeps c _).2.2.2
    simp only [extract, hv, Bool.false_eq_true, ↓reduceIte, hb]
    cases span? h with
    | none => rfl
    | some s => simp only [Context.withSpan, hv, Bool.false_eq_true, ↓reduceIte, Option.some_or]

end Trace

namespace Tracer

def annotations (i : Trace.Identity) (message : Bool) : List Effect :=
  [.wrote (.set "Trace-Id" i.traceId), .wrote (.set "Span-Id" i.spanId)] ++
    if message then [.wrote (.set "content-type" "application/json")] else []

variable (tr : Tracer)

def measured (rs : List Recording) : List Effect := if tr.measures then rs.map .recorded else []

def elapsed (k : Call) (y : Exchange) : Elapsed := .ofMillis (y.world.now - k.entered).toNat

def opening (k : Call) (request : Payload) (s : Option Log.Span) : List Effect :=
  .logged { tr.received k.transport request with span := s } ::
    tr.measured (.enter k.transport.operation ::
      (Log.wireSize? request).toList.map (.requestSize k.transport.method k.transport.operation))

def closing (k : Call) (y : Exchange) : Halt → List Effect
  | .returned (.ok p) =>
    .logged { tr.completed k.transport (.ok p) y.reply.fields with span := none } ::
      (annotations k.identity p.isMessage ++
        tr.measured ([.duration k.transport.method k.transport.operation (elapsed k y),
            .request k.transport.method k.transport.operation success] ++
          (Log.wireSize? p).toList.map (.responseSize k.transport.method k.transport.operation) ++
          [.leave k.transport.operation]))
  | .returned (.error e) =>
    .logged { tr.completed k.transport (.error e) y.reply.fields with span := none } ::
      (annotations k.identity false ++
        tr.measured [.duration k.transport.method k.transport.operation (elapsed k y),
          .request k.transport.method k.transport.operation error,
          .failure k.transport.method k.transport.operation handlerError,
          .leave k.transport.operation])
  | .panicked _ | .abandoned =>
    tr.measured [.leave k.transport.operation] ++ annotations k.identity false

variable {tr} {x y : Exchange}

lemma measured_append (rs ss : List Recording) :
    tr.measured (rs ++ ss) = tr.measured rs ++ tr.measured ss := by
  simp only [measured]
  split
  · exact List.map_append
  · rfl

lemma measure_emits (tr : Tracer) (rs : List Recording) (x : Exchange) :
    x.Emits (tr.measured rs) (tr.measure rs x) := by
  simp only [measured, measure]
  split
  · exact records_emits rs x
  · exact Emits.refl x

lemma measure_still (tr : Tracer) (rs : List Recording) (x : Exchange) :
    x.Still (tr.measure rs x) := by
  simp only [measure]
  split
  · exact records_still rs x
  · exact Still.refl x

lemma annotate_still (i : Trace.Identity) (message : Bool) (x : Exchange) :
    x.Still (annotate i message x) := by
  have hs := (x.write_still (.set "Trace-Id" i.traceId)).trans
    ((x.set "Trace-Id" i.traceId).write_still (.set "Span-Id" i.spanId))
  cases message with
  | false => exact hs
  | true => exact hs.trans (((x.set "Trace-Id" i.traceId).set "Span-Id" i.spanId).write_still
      (.set "content-type" "application/json"))

lemma annotate_emits {i : Trace.Identity} (hi : i.Legal) (message : Bool) (x : Exchange) :
    x.Emits (annotations i message) (annotate i message x) := by
  have nt : Header.Name.parse? "Trace-Id" = some .traceId := by decide
  have ns : Header.Name.parse? "Span-Id" = some .spanId := by decide
  have ht : x.Emits _ (x.set "Trace-Id" i.traceId) :=
    write_emits (ReplyHeaders.refusal?_set nt hi.traceId)
  have hs : (x.set "Trace-Id" i.traceId).Emits _
      ((x.set "Trace-Id" i.traceId).set "Span-Id" i.spanId) :=
    write_emits (ReplyHeaders.refusal?_set ns hi.spanId)
  have hc : ((x.set "Trace-Id" i.traceId).set "Span-Id" i.spanId).Emits _
      (((x.set "Trace-Id" i.traceId).set "Span-Id" i.spanId).set "content-type"
        "application/json") := write_emits (by decide)
  cases message with
  | false => exact ht.trans hs
  | true => exact (ht.trans hs).trans hc

lemma enter_emits (k : Call) (request : Payload) (x : Exchange) :
    x.Emits (tr.opening k request x.span) (tr.enter k request x) := by
  have hl := x.log_emits (tr.received k.transport request)
  have hm := measure_emits tr (entryRecordings k.transport request)
    (x.log (tr.received k.transport request))
  have he : tr.opening k request x.span =
      [.logged { tr.received k.transport request with span := x.span }] ++
        tr.measured (entryRecordings k.transport request) := by
    simp only [opening, entryRecordings, List.singleton_append]
    cases Log.wireSize? request <;> rfl
  rw [he]
  obtain ⟨h1, h2, h3⟩ := hl.trans hm
  exact ⟨h1, h2, h3⟩

lemma leave_emits (tr : Tracer) (k : Call) (x : Exchange) :
    x.Emits (tr.measured [.leave k.transport.operation]) (tr.leave k x) := measure_emits tr _ x

lemma complete_emits {k : Call} (hk : k.identity.Legal) (r : Except ServiceError Payload)
    (hy : y.span = none) : y.Emits (tr.closing k y (.returned r)) (tr.complete k r y) := by
  have hl := y.log_emits (tr.completed k.transport r y.reply.fields)
  have ha := annotate_emits hk (isMessage r) (y.log (tr.completed k.transport r y.reply.fields))
  have hm := measure_emits tr (resultRecordings k.transport (elapsed k y) r)
    (annotate k.identity (isMessage r) (y.log (tr.completed k.transport r y.reply.fields)))
  have hall := ((hl.trans ha).trans hm).trans (leave_emits tr k _)
  have he : tr.closing k y (.returned r) =
      ([.logged { tr.completed k.transport r y.reply.fields with span := none }] ++
        annotations k.identity (isMessage r) ++
        tr.measured (resultRecordings k.transport (elapsed k y) r)) ++
        tr.measured [.leave k.transport.operation] := by
    cases r with
    | error e =>
      simp only [closing, resultRecordings, failures, status, List.append_assoc,
        List.singleton_append, ← measured_append]
      rfl
    | ok p =>
      simp only [closing, resultRecordings, failures, status, List.append_assoc,
        List.singleton_append, ← measured_append]
      cases hs : Log.wireSize? p <;> simp [reply?, hs, isMessage]
  rw [he]
  rw [hy] at hall
  exact hall

lemma finish_emits {k : Call} (hk : k.identity.Legal) (h : Halt) (y : Exchange) :
    y.Emits (tr.closing k y h) (tr.finish k h y) := by
  have hn : ({ y with span := none } : Exchange).Emits (tr.closing k y h) (tr.finish k h y) := by
    cases h with
    | returned r => exact complete_emits hk r rfl
    | panicked p => exact (leave_emits tr k _).trans (annotate_emits hk false _)
    | abandoned => exact (leave_emits tr k _).trans (annotate_emits hk false _)
  exact ⟨hn.trace, hn.sink, hn.reply⟩

lemma enter_still (k : Call) (request : Payload) (x : Exchange) :
    x.Still (tr.enter k request x) := by
  obtain ⟨h1, h2, h3, h4, h5⟩ := (x.log_still (tr.received k.transport request)).trans
    (measure_still tr (entryRecordings k.transport request) _)
  exact ⟨h1, h2, h3, h4, h5⟩

lemma finish_still (k : Call) (h : Halt) (y : Exchange) : y.Still (tr.finish k h y) := by
  have hn : y.Still { y with span := none } := ⟨rfl, rfl, rfl, rfl, rfl⟩
  refine hn.trans ?_
  cases h with
  | returned r =>
    exact (((log_still _ _).trans (annotate_still _ _ _)).trans (measure_still tr _ _)).trans
      (measure_still tr _ _)
  | panicked | abandoned =>
    exact (measure_still tr [.leave k.transport.operation] _).trans
      (annotate_still k.identity false (tr.leave k { y with span := none }))

lemma measured_invocations (rs : List Recording) :
    (tr.measured rs).filterMap Effect.invocation? = [] := by
  simp only [measured]
  split <;> simp [Effect.invocation?]

lemma measured_writes (rs : List Recording) : (tr.measured rs).filterMap Effect.write? = [] := by
  simp only [measured]
  split
  · exact Effect.writes_recorded rs
  · rfl

lemma opening_invocations (k : Call) (request : Payload) (s : Option Log.Span) :
    (tr.opening k request s).filterMap Effect.invocation? = [] := by
  rw [opening, List.filterMap_cons_none rfl, measured_invocations]

lemma opening_writes (k : Call) (request : Payload) (s : Option Log.Span) :
    (tr.opening k request s).filterMap Effect.write? = [] := by
  rw [opening, List.filterMap_cons_none rfl, measured_writes]

lemma closing_invocations (k : Call) (y : Exchange) (h : Halt) :
    (tr.closing k y h).filterMap Effect.invocation? = [] := by
  have ha : ∀ message, (annotations k.identity message).filterMap Effect.invocation? = [] := by
    intro message
    cases message <;> rfl
  cases h with
  | returned r =>
    cases r <;>
      rw [closing, List.filterMap_cons_none rfl, List.filterMap_append, ha, measured_invocations,
        List.nil_append]
  | panicked | abandoned =>
    rw [closing, List.filterMap_append, ha, measured_invocations, List.nil_append]

lemma closing_writes (k : Call) (y : Exchange) (r : Except ServiceError Payload) :
    (tr.closing k y (.returned r)).filterMap Effect.write? =
      (annotations k.identity (isMessage r)).filterMap Effect.write? := by
  cases r <;>
    rw [closing, List.filterMap_cons_none rfl, List.filterMap_append, measured_writes,
      List.append_nil] <;> rfl

lemma closing_failed_writes (k : Call) (y : Exchange) (e : ServiceError) :
    (tr.closing k y (.returned (.error e))).filterMap Effect.write? =
      (annotations k.identity false).filterMap Effect.write? := closing_writes k y (.error e)

def called (inner : Context → Payload → Program) (c : Context) (request : Payload) : Program :=
  .act (.invoke request) (inner c request)

/-- If `inner` shows when it is called, then `own` shows one call, in context `c`, and after it only
what the handler does on its way to `y`. -/
def CallsOnce (limit : Instant) (inner : Context → Payload → Program) (c : Context)
    (request : Payload) (own : List Effect) (h : Halt) (y : Exchange) : Prop :=
  ∀ handler, inner = called handler → ∃ rest mid, own = .invoked c request :: rest ∧
    (handler c request).run c limit mid = (h, y) ∧ mid.Handled c rest y

structure Bare (limit : Instant) (inner : Context → Payload → Program) (c : Context)
    (request : Payload) (x start : Exchange) (own : List Effect) (h : Halt) (z : Exchange) :
    Prop where
  ran : (inner c request).run c limit start = (h, z)
  handled : start.Handled c own z
  once : CallsOnce limit inner c request own h z
  before : x.Emits [.logged { missingTransport with span := x.span }] start
  still : x.Still start
  order : x.Emits ([.logged { missingTransport with span := x.span }] ++ own) z
  warning : missingTransport.level = .warn

structure Observed (tr : Tracer) (limit : Instant) (inner : Context → Payload → Program)
    (c : Context) (t : Transport) (request : Payload) (k : Call) (x start : Exchange)
    (own : List Effect) (y : Exchange) (h : Halt) (z : Exchange) : Prop where
  context : k.context = Trace.extract c t.headers
  signal : k.context.signal = c.signal
  deadline : k.context.deadline = c.deadline
  transport : k.context.transport = some t
  ran : (inner k.context request).run k.context limit start = (h, y)
  handled : start.Handled k.context own y
  once : CallsOnce limit inner k.context request own h y
  span : start.span =
    some (Log.callSpan t.operation k.context.identity.traceId k.context.identity.spanId)
  before : x.Emits (tr.opening k request x.span) start
  stillBefore : x.Still start
  after : y.Emits (tr.closing k y h) z
  stillAfter : y.Still z
  order : x.Emits (tr.opening k request x.span ++ own ++ tr.closing k y h) z
  nowhereElse : (tr.opening k request x.span ++ tr.closing k y h).filterMap
    Effect.invocation? = []
  received : (tr.received t request).message = "request received" ∧
    (tr.received t request).level = .info
  completed : ∀ r, h = .returned r →
    (tr.completed t r y.reply.fields).message = "request completed" ∧
      ((tr.completed t r y.reply.fields).level = .info ↔ ∃ p, r = .ok p) ∧
      ((tr.completed t r y.reply.fields).level = .error ↔ ∃ e, r = .error e)

lemma completed_level (t : Transport) (r : Except ServiceError Payload) (reply : Headers) :
    ((tr.completed t r reply).level = .info ↔ ∃ p, r = .ok p) ∧
      ((tr.completed t r reply).level = .error ↔ ∃ e, r = .error e) := by
  cases r <;> simp [completed, resultLevel]

variable {limit : Instant} {inner : Context → Payload → Program} {c : Context}
  {request : Payload}

lemma calls_once {start : Exchange} {own : List Effect} {h : Halt}
    (hr : (inner c request).run c limit start = (h, y)) (ho : start.Handled c own y) :
    CallsOnce limit inner c request own h y := by
  rintro handler rfl
  let mid := Program.perform c start (.invoke request)
  have hm : start.Emits [.invoked c request] mid := ⟨rfl, rfl, rfl⟩
  have hr' : (handler c request).run c limit mid = (h, y) := hr
  obtain ⟨rest, hrest⟩ := Program.run_handled c limit (handler c request) mid
  rw [hr'] at hrest
  -- what was done up to the end is in the trace, so it is the call and then the rest
  exact ⟨rest, mid, ho.emits.unique (hm.trans hrest.emits), hr', hrest⟩

lemma serve_bare (hd : x.world.done? c = none) (ht : c.transport = none) :
    ∃ start own, Bare limit inner c request x start own (tr.serve limit inner c request x).1
      (tr.serve limit inner c request x).2 := by
  have hs : tr.serve limit inner c request x =
      (inner c request).run c limit (x.log missingTransport) := by
    simp only [serve, hd, ht]
  have hb := x.log_emits missingTransport
  obtain ⟨own, ho⟩ := Program.run_handled c limit (inner c request) (x.log missingTransport)
  rw [hs]
  exact ⟨_, own, rfl, ho, calls_once rfl ho, hb, log_still x _, hb.trans ho.emits, rfl⟩

lemma serve_eq {t : Transport} (hd : x.world.done? c = none) (ht : c.transport = some t) :
    tr.serve limit inner c request x =
      let k := Call.start c t x.world.now
      let run := (inner k.context request).run k.context limit (tr.enter k request x)
      (run.1, tr.finish k run.1 run.2) := by
  simp only [serve, hd, ht]

lemma serve_observed {t : Transport} (hd : x.world.done? c = none) (ht : c.transport = some t) :
    ∃ start own y, tr.Observed limit inner c t request (Call.start c t x.world.now) x start own y
      (tr.serve limit inner c request x).1 (tr.serve limit inner c request x).2 := by
  let k := Call.start c t x.world.now
  let run := (inner k.context request).run k.context limit (tr.enter k request x)
  have hb : x.Emits (tr.opening k request x.span) (tr.enter k request x) :=
    enter_emits k request x
  obtain ⟨own, ho⟩ :=
    Program.run_handled k.context limit (inner k.context request) (tr.enter k request x)
  have he : run.2.Emits (tr.closing k run.2 run.1) (tr.finish k run.1 run.2) :=
    finish_emits k.context.identity_legal run.1 run.2
  obtain ⟨h1, h2, h3⟩ := Trace.extract_keeps c t.headers
  rw [serve_eq hd ht]
  refine ⟨tr.enter k request x, own, run.2, ?_⟩
  exact {
    context := rfl
    signal := h1
    deadline := h2
    transport := h3.trans ht
    ran := rfl
    handled := ho
    once := calls_once rfl ho
    span := rfl
    before := hb
    stillBefore := enter_still k request x
    after := he
    stillAfter := finish_still k run.1 run.2
    order := (hb.trans ho.emits).trans he
    nowhereElse := by
      rw [List.filterMap_append, opening_invocations, closing_invocations]
      rfl
    received := ⟨rfl, rfl⟩
    completed := fun r _ => ⟨rfl, completed_level t r _⟩ }

/-- A call whose context is done leaves everything as it is. Any other runs its handler once, hands
on its result, and adds to the handler's own effects those of `Bare` or `Observed`. -/
theorem serve_transparent (tr : Tracer) (limit : Instant) (inner : Context → Payload → Program)
    (c : Context) (request : Payload) (x : Exchange) :
    (∀ e, x.world.done? c = some e →
      tr.serve limit inner c request x = (.returned (.error e), x)) ∧
    (x.world.done? c = none → c.transport = none →
      ∃ start own, Bare limit inner c request x start own
        (tr.serve limit inner c request x).1 (tr.serve limit inner c request x).2) ∧
    (∀ t, x.world.done? c = none → c.transport = some t →
      ∃ start own y, tr.Observed limit inner c t request (Call.start c t x.world.now) x start own y
        (tr.serve limit inner c request x).1 (tr.serve limit inner c request x).2) :=
  ⟨fun _ h => serve_done tr h limit inner request, fun hd ht => serve_bare hd ht,
    fun _ hd ht => serve_observed hd ht⟩

theorem serve_transparent_greeting :
    let w := World.start 0 .discard
    let c := Context.new ⟨0⟩
    let t : Transport := ⟨.http, "http://localhost", "/Greeter/Hello", "POST", "/hello", .empty⟩
    let greet : Context → Payload → Program := fun _ _ => .reply (.string "hello")
    (w.cancel ⟨0⟩).done? c = some .cancelled ∧
      serve {} 5 greet c .unit (.start (w.cancel ⟨0⟩)) =
        (.returned (.error .cancelled), .start (w.cancel ⟨0⟩)) ∧
    (w.done? c = none ∧ c.transport = none) ∧
      (∃ start own, Bare 5 greet c .unit (.start w) start own
        (serve {} 5 greet c .unit (.start w)).1 (serve {} 5 greet c .unit (.start w)).2) ∧
    (w.done? (c.withTransport t) = none ∧ (c.withTransport t).transport = some t) ∧
      ∃ start own y, Observed {} 5 greet (c.withTransport t) t .unit
        (Call.start (c.withTransport t) t 0) (.start w) start own y
        (serve {} 5 greet (c.withTransport t) .unit (.start w)).1
        (serve {} 5 greet (c.withTransport t) .unit (.start w)).2 := by
  intro w c t greet
  refine ⟨rfl, ?_, ⟨rfl, rfl⟩, ?_, ⟨rfl, rfl⟩, ?_⟩
  · exact (serve_transparent {} 5 greet c .unit (.start (w.cancel ⟨0⟩))).1 .cancelled rfl
  · exact (serve_transparent {} 5 greet c .unit (.start w)).2.1 rfl rfl
  · exact (serve_transparent {} 5 greet (c.withTransport t) .unit (.start w)).2.2 t rfl rfl

end Tracer

end RpcServer
