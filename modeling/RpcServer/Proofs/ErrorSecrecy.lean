import RpcServer.Http.Dispatcher
import RpcServer.Proofs.Observation

/-! Of an error only the code that it resolves to reaches the caller: failures with the same code and
the same reply headers get the same response. -/

namespace RpcServer

open Reply

namespace Reply

def Resolver.Alike (r : Resolver) (e₁ e₂ : ServiceError) : Prop :=
  r.resolve (some e₁) = r.resolve (some e₂) ∨ r.mapper = none ∧ e₁.code = e₂.code

lemma Resolver.Alike.resolve {r : Resolver} {e₁ e₂ : ServiceError} (h : r.Alike e₁ e₂) :
    r.resolve (some e₁) = r.resolve (some e₂) := by
  rcases h with h | ⟨hm, hc⟩
  · exact h
  · simp only [Resolver.resolve, hm, Resolver.defaultCode, hc]

lemma Encoder.encodeError_alike (r : Encoder) (h : Headers) {e₁ e₂ : ServiceError}
    (ha : r.resolver.Alike e₁ e₂) : r.encodeError h e₁ = r.encodeError h e₂ := by
  simp only [Encoder.encodeError, ha.resolve]

end Reply

namespace Http.Dispatcher

variable (d : Dispatcher)

def started? (route : Route) (r : Request) (w : World) :
    Option (Tracer.Call × Payload × Exchange) :=
  match input route.shape d.maxBodyBytes r, w.issue.2.after? d.timeoutSecs with
  | .ok v, some deadline =>
    let c := d.context route r w.issue.1 deadline
    match w.issue.2.done? c with
    | some _ => none
    | none =>
      let k := Tracer.Call.start c (d.transport route r) w.now
      some (k, .document v, d.tracer.enter k (.document v) (.start w.issue.2))
  | _, _ => none

def Fails (limit : Instant) (route : Route) (r : Request) (w : World) (writes : List HeaderWrite)
    (e : ServiceError) : Prop :=
  ∃ k p x, d.started? route r w = some (k, p, x) ∧
    let run := (Operation.service route.handler k.context p).run k.context limit x
    run.1 = .returned (.error e) ∧ x.writesSince run.2 = writes

variable {d} {limit : Instant} {route : Route} {r : Request} {w : World} {k : Tracer.Call}
  {p : Payload} {x : Exchange}

lemma started_of (h : d.started? route r w = some (k, p, x)) :
    ∃ v deadline, input route.shape d.maxBodyBytes r = .ok v ∧
      w.issue.2.after? d.timeoutSecs = some deadline ∧
      w.issue.2.done? (d.context route r w.issue.1 deadline) = none ∧
      k = .start (d.context route r w.issue.1 deadline) (d.transport route r) w.now ∧
      p = .document v ∧ x = d.tracer.enter k p (.start w.issue.2) := by
  simp only [started?] at h
  split at h
  · rename_i v deadline hv ha
    split at h
    · contradiction
    · rename_i hd
      simp only [Option.some.injEq, Prod.mk.injEq] at h
      obtain ⟨rfl, rfl, rfl⟩ := h
      exact ⟨v, deadline, hv, ha, hd, rfl, rfl, rfl⟩
  · contradiction

lemma started?_eq {v : Json} {deadline : Instant}
    (hv : input route.shape d.maxBodyBytes r = .ok v)
    (ha : w.issue.2.after? d.timeoutSecs = some deadline)
    (hd : w.issue.2.done? (d.context route r w.issue.1 deadline) = none) :
    let k := Tracer.Call.start (d.context route r w.issue.1 deadline) (d.transport route r) w.now
    d.started? route r w =
      some (k, .document v, d.tracer.enter k (.document v) (.start w.issue.2)) := by
  simp only [started?, hv, ha, hd]

lemma started_identity (h : d.started? route r w = some (k, p, x)) :
    k.identity = .ofSpan (Trace.span? r.headers) := by
  obtain ⟨v, deadline, -, -, -, rfl, -, -⟩ := started_of h
  have hs : (d.context route r w.issue.1 deadline).span = none := rfl
  have hv : (d.context route r w.issue.1 deadline).hasValidSpan = false := rfl
  have he := Trace.extract_span (d.context route r w.issue.1 deadline) r.headers
  simp only [hs, hv, Bool.false_eq_true, ↓reduceIte, Option.or_none] at he
  exact congrArg Trace.Identity.ofSpan he

lemma dispatch_of_started (h : d.started? route r w = some (k, p, x)) (limit : Instant) :
    let run := (Operation.service route.handler k.context p).run k.context limit x
    (d.dispatch limit route r w).1 = (d.answer r run.1 (d.tracer.finish k run.1 run.2)).1 := by
  obtain ⟨v, deadline, hv, ha, hd, rfl, rfl, rfl⟩ := started_of h
  have hs : d.tracer.serve limit (Operation.service route.handler)
      (d.context route r w.issue.1 deadline) (.document v) (.start w.issue.2) = _ :=
    Tracer.serve_eq hd rfl
  simp only [dispatch, hv, call, ha, hs]
  rfl

lemma settle_fst (e : Except Panic (Encoded × List Log.Event)) (w : World) :
    (settle e w).1 = e.map (·.1) := by
  cases e <;> rfl

def failureHeaders (r : Request) (writes : List HeaderWrite) : Headers :=
  let i := Trace.Identity.ofSpan (Trace.span? r.headers)
  ((writes ++ (Tracer.annotations i false).filterMap Effect.write?).foldl ReplyHeaders.write
    .empty).fields

lemma finish_failed {y : Exchange} {own : List Effect} (e : ServiceError)
    (hs : d.started? route r w = some (k, p, x)) (ho : x.Handled k.context own y) :
    (d.tracer.finish k (.returned (.error e)) y).reply.fields =
      failureHeaders r (x.writesSince y) := by
  have hk := started_identity hs
  obtain ⟨v, deadline, -, -, -, hc, -, hx⟩ := started_of hs
  have hlegal : k.identity.Legal := hk ▸ Trace.Identity.ofSpan_legal _
  have hstart : x.reply = .empty := by
    rw [hx, (Tracer.enter_emits k p (.start w.issue.2)).reply, Tracer.opening_writes]
    rfl
  rw [(Tracer.finish_emits hlegal (.returned (.error e)) y).reply, ho.emits.reply, hstart,
    Tracer.closing_failed_writes, hk, failureHeaders, ho.emits.writesSince, List.foldl_append]

lemma dispatch_of_fails {writes : List HeaderWrite} {e : ServiceError}
    (h : d.Fails limit route r w writes e) :
    (d.dispatch limit route r w).1 =
      outcome (.withReply · (failureHeaders r writes))
        ((d.encoder.encodeError r.headers e).map (·.1)) := by
  obtain ⟨k, p, x, hs, hr, rfl⟩ := h
  obtain ⟨own, ho⟩ := Program.run_handled k.context limit
    (Operation.service route.handler k.context p) x
  rw [dispatch_of_started hs limit, hr]
  simp only [answer, encodeResult, encodeError, settle_fst, finish_failed e hs ho]

lemma reject_fst (d : Dispatcher) (r : Request) (e : ServiceError) (w : World) :
    (d.reject r e w).1 =
      outcome .ofEncoded ((d.encoder.encodeError r.headers e).map (·.1)) := by
  simp only [reject, encodeError, settle_fst]

/-- Whatever else differs between two failures of one operation that write the same reply headers,
or between two refused requests with the same headers: if the codes are alike, so are the
responses. -/
theorem error_text_stays (d : Dispatcher) :
    (∀ (route : Route) (r : Request) (h₁ h₂ : Handler) (limit₁ limit₂ : Instant) (w₁ w₂ : World)
      (writes : List HeaderWrite) (e₁ e₂ : ServiceError),
      d.Fails limit₁ { route with handler := h₁ } r w₁ writes e₁ →
      d.Fails limit₂ { route with handler := h₂ } r w₂ writes e₂ →
      d.encoder.resolver.Alike e₁ e₂ →
      (d.dispatch limit₁ { route with handler := h₁ } r w₁).1 =
        (d.dispatch limit₂ { route with handler := h₂ } r w₂).1) ∧
    ∀ (route₁ route₂ : Route) (r₁ r₂ : Request) (limit₁ limit₂ : Instant) (w₁ w₂ : World)
      (e₁ e₂ : ServiceError),
      input route₁.shape d.maxBodyBytes r₁ = .error e₁ →
      input route₂.shape d.maxBodyBytes r₂ = .error e₂ →
      r₁.headers = r₂.headers → d.encoder.resolver.Alike e₁ e₂ →
      (d.dispatch limit₁ route₁ r₁ w₁).1 = (d.dispatch limit₂ route₂ r₂ w₂).1 := by
  refine ⟨?_, ?_⟩
  · intro route r h₁ h₂ limit₁ limit₂ w₁ w₂ writes e₁ e₂ hf₁ hf₂ ha
    rw [dispatch_of_fails hf₁, dispatch_of_fails hf₂,
      d.encoder.encodeError_alike r.headers ha]
  · intro route₁ route₂ r₁ r₂ limit₁ limit₂ w₁ w₂ e₁ e₂ hi₁ hi₂ hr ha
    rw [d.dispatch_of_input_error hi₁, d.dispatch_of_input_error hi₂, reject_fst, reject_fst, hr,
      d.encoder.encodeError_alike r₂.headers ha]

theorem error_text_stays_greeting :
    let d : Dispatcher := ⟨⟨.new, ⟨none, 500⟩, 0, "ok"⟩, {}, "http://localhost", 5, 0⟩
    let w := World.start 0 .discard
    let deny : String → Handler := fun message _ _ =>
      .act (.write (.set "x-attempt" "1")) (.fail (.internal "DENIED" message))
    let greet : Route := ⟨"/Greeter/Hello", .any, deny "no such user"⟩
    let named : Route := ⟨"/Greeter/Hello", .record "Hello" [("name", .text)], deny "no name"⟩
    let r : Request := ⟨"POST", ⟨"/hello", none⟩, .empty, []⟩
    let long : Request := ⟨"POST", ⟨"/hello", none⟩, .empty, [0]⟩
    let e : String → ServiceError := .internal "DENIED"
    (d.Fails 9 { greet with handler := deny "a" } r w [.set "x-attempt" "1"] (e "a") ∧
      d.Fails 9 { greet with handler := deny "b" } r w [.set "x-attempt" "1"] (e "b") ∧
      d.encoder.resolver.Alike (e "a") (e "b")) ∧
    (d.dispatch 9 { greet with handler := deny "a" } r w).1 =
      (d.dispatch 9 { greet with handler := deny "b" } r w).1 ∧
    (input greet.shape 0 long = .error bodyTooLong ∧
      input named.shape 0 r = .error (undecodableQuery named.shape []) ∧
      d.encoder.resolver.Alike bodyTooLong (undecodableQuery named.shape [])) ∧
    (d.dispatch 9 greet long w).1 = (d.dispatch 9 named r w).1 := by
  intro d w deny greet named r long e
  have ho : input greet.shape 0 r = .ok (.object []) := rfl
  have ht : (World.start 0 .discard).issue.2.after? 5 = some 5000 := rfl
  have ha : d.Fails 9 { greet with handler := deny "a" } r w [.set "x-attempt" "1"] (e "a") :=
    ⟨_, _, _, started?_eq ho ht rfl, rfl, rfl⟩
  have hb : d.Fails 9 { greet with handler := deny "b" } r w [.set "x-attempt" "1"] (e "b") :=
    ⟨_, _, _, started?_eq ho ht rfl, rfl, rfl⟩
  have hl : input greet.shape 0 long = .error bodyTooLong := rfl
  have hn : input named.shape 0 r = .error (undecodableQuery named.shape []) := rfl
  exact ⟨⟨ha, hb, .inr ⟨rfl, rfl⟩⟩,
    (error_text_stays d).1 greet r (deny "a") (deny "b") 9 9 w w _ _ _ ha hb (.inr ⟨rfl, rfl⟩),
    ⟨hl, hn, .inr ⟨rfl, rfl⟩⟩,
    (error_text_stays d).2 greet named long r 9 9 w w _ _ hl hn rfl (.inr ⟨rfl, rfl⟩)⟩

end Http.Dispatcher

end RpcServer
