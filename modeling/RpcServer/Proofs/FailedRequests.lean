import RpcServer.Http.Service
import RpcServer.Proofs.Encoding
import RpcServer.Proofs.FailureCount
import RpcServer.Proofs.Registrations

/-! Failed requests, as the metrics of a service account for them: each is counted once, but for
those whose handler has replied and those that have no deadline. -/

namespace RpcServer

open Metrics

namespace Http.Service

variable (s : Service) (limit : Instant) (r : Request) (w : World)

def failures : ℕ :=
  Effect.failures r.method r.uri.path ((s.respond limit r w).2.trace.drop w.trace.length)

def Delivers : Prop :=
  ∃ route reply z v e, s.destination r.method r.uri.path = .route route ∧
    s.dispatcher.ended? limit route r w = some (.returned (.ok reply), z) ∧
    s.dispatcher.encoder.successEnvelope reply = .ok v ∧
    s.dispatcher.encoder.Writes r.headers v e ∧
    (s.respond limit r w).1 = some ((Response.withReply e z.reply.fields).framed r.method)

def Loses : Prop :=
  ∃ route reply z, s.destination r.method r.uri.path = .route route ∧
    s.dispatcher.ended? limit route r w = some (.returned (.ok reply), z) ∧
    ∀ v, s.dispatcher.encoder.successEnvelope reply = .ok v →
      ∀ e, ¬ s.dispatcher.encoder.Writes r.headers v e

def Overflows : Prop :=
  ∃ route v, s.destination r.method r.uri.path = .route route ∧
    Dispatcher.input route.shape s.dispatcher.maxBodyBytes r = .ok v ∧
    w.issue.2.after? s.dispatcher.timeoutSecs = none

def Accounts : Prop :=
  (s.Delivers limit r w → s.failures limit r w = 0) ∧
    (¬ s.Delivers limit r w → s.failures limit r w = 1)

variable {s limit r w} {route : Route}

lemma measures_of_build {b : Builder} (hb : b.build = .ok s) :
    s.dispatcher.tracer.measures = b.measures ∧ s.fallback.measures = b.measures := by
  simp only [Builder.build] at hb
  cases hbs : bindAll [] b.registrations with
  | error e => simp [hbs, Except.map] at hb
  | ok bindings =>
    simp only [hbs, Except.map, Except.ok.injEq] at hb
    rw [← hb]
    exact ⟨rfl, rfl⟩

lemma Delivers.not_loses (h : s.Delivers limit r w) : ¬ s.Loses limit r w := by
  obtain ⟨route, reply, z, v, e, hd, he, hv, hw, -⟩ := h
  rintro ⟨route', reply', z', hd', he', hn⟩
  obtain rfl : route = route' := Destination.route.inj (hd.symm.trans hd')
  obtain rfl : reply = reply' := by
    have hp := Option.some.inj (he.symm.trans he')
    simp only [Prod.mk.injEq, Halt.returned.injEq, Except.ok.injEq] at hp
    exact hp.1
  exact hn v hv e hw

lemma respond_of_route (hd : s.destination r.method r.uri.path = .route route) :
    s.respond limit r w =
      let (o, v) := s.dispatcher.dispatch limit route r w
      ((recover o v).1.map (·.framed r.method), (recover o v).2) := by
  simp only [respond, answer, hd]

lemma recover_counts {m path : String} {n : ℕ} {v : World} (h : World.Counts m path n w v)
    (o : Outcome) : World.Counts m path n w (recover o v).2 := by
  cases o with
  | answered | abandoned => exact h
  | panicked p =>
    have hp : World.Counts m path 0 v (v.after [.logged (panicEvent p)]) := v.after_counts rfl
    exact h.trans hp

def Counted (s : Service) (limit : Instant) (r : Request) (w : World) (n : ℕ) : Prop :=
  World.Counts r.method r.uri.path n w (s.respond limit r w).2

inductive Verdict (s : Service) (limit : Instant) (r : Request) (w : World) : Prop where
  | delivered : s.Delivers limit r w → s.Counted limit r w 0 → Verdict s limit r w
  | undelivered : s.Loses limit r w ∨ s.Overflows r w → s.Counted limit r w 0 →
      (∃ left, (s.respond limit r w).1 =
        some ((Response.withReply .fallback left).framed r.method)) → Verdict s limit r w
  | left : ¬ s.Loses limit r w → ¬ s.Overflows r w → (s.respond limit r w).1 = none →
      s.Counted limit r w 0 → Verdict s limit r w
  | failed : ¬ s.Delivers limit r w → ¬ s.Loses limit r w → ¬ s.Overflows r w →
      (s.respond limit r w).1 ≠ none → s.Counted limit r w 1 → Verdict s limit r w

def shown (f : Reply.Encoded → Response) : Except Panic Reply.Encoded → Response
  | .ok e => f e
  | .error _ => .ofEncoded .fallback

lemma respond_of_outcome {f : Reply.Encoded → Response} {e : Except Panic Reply.Encoded}
    (hd : s.destination r.method r.uri.path = .route route)
    (ho : (s.dispatcher.dispatch limit route r w).1 = Dispatcher.outcome f e) :
    (s.respond limit r w).1 = some ((shown f e).framed r.method) := by
  have hr : ∀ v, (recover (Dispatcher.outcome f e) v).1 = some (shown f e) := by
    intro v
    cases e <;> rfl
  rw [respond_of_route hd]
  simp only [ho, hr, Option.map_some]

lemma report_counts {f : Fallback} (hf : f.measures = true) {reason : String}
    (hr : reason ∈ pathReasons) (message m path : String) (w : World) :
    World.Counts m path 1 w (f.report reason message m path w) := by
  have hc : World.Counts m path 1 w (w.record (.failure m path reason)) :=
    ⟨[.recorded (.failure m path reason)], rfl, rfl, pathFailures_singleton m path hr⟩
  have hl : World.Counts m path 0 (w.record (.failure m path reason))
      ((w.record (.failure m path reason)).log (Fallback.event message m path)) :=
    ⟨[.logged (Fallback.event message m path)], rfl, rfl, rfl⟩
  rw [Fallback.report, if_pos hf]
  exact hc.trans hl

def Unreplied (s : Service) (limit : Instant) (r : Request) (w : World) : Prop :=
  ∀ route reply z, s.destination r.method r.uri.path = .route route →
    s.dispatcher.ended? limit route r w ≠ some (.returned (.ok reply), z)

lemma Unreplied.not_delivers (h : s.Unreplied limit r w) : ¬ s.Delivers limit r w :=
  fun ⟨route, reply, z, _, _, hd, he, _⟩ => h route reply z hd he

lemma Unreplied.not_loses (h : s.Unreplied limit r w) : ¬ s.Loses limit r w :=
  fun ⟨route, reply, z, hd, he, _⟩ => h route reply z hd he

lemma unreplied_of_ended {h : Halt} {z : Exchange}
    (hd : s.destination r.method r.uri.path = .route route)
    (he : s.dispatcher.ended? limit route r w = some (h, z))
    (hh : ∀ reply, h ≠ .returned (.ok reply)) : s.Unreplied limit r w := by
  intro other reply z' ho he'
  obtain rfl : other = route := Destination.route.inj (ho.symm.trans hd)
  rw [he, Option.some.injEq, Prod.mk.injEq] at he'
  exact hh reply he'.1

lemma not_overflows_of_ended {e : Halt × Exchange}
    (he : s.dispatcher.ended? limit route r w = some e) : ¬ s.Overflows r w := by
  rintro ⟨_, _, -, -, ha⟩
  obtain ⟨_, deadline, -, ha', -⟩ := Dispatcher.ended_of he
  rw [ha] at ha'
  contradiction

lemma failed_of_unrouted (hd : ∀ route, s.destination r.method r.uri.path ≠ .route route)
    (ha : (s.respond limit r w).1 ≠ none) (hn : s.Counted limit r w 1) :
    Verdict s limit r w := by
  have hu : s.Unreplied limit r w := fun route _ _ h => absurd h (hd route)
  exact .failed hu.not_delivers hu.not_loses (fun ⟨route, _, h, _⟩ => hd route h) ha hn

lemma counted_of_dispatch (hd : s.destination r.method r.uri.path = .route route) {n : ℕ}
    (hc : World.Counts r.method r.uri.path n w (s.dispatcher.dispatch limit route r w).2) :
    s.Counted limit r w n := by
  rw [Counted, respond_of_route hd]
  exact recover_counts hc _

lemma verdict_of_reply {reply : Payload} {z : Exchange}
    (hd : s.destination r.method r.uri.path = .route route)
    (he : s.dispatcher.ended? limit route r w = some (.returned (.ok reply), z)) :
    Verdict s limit r w := by
  have hn : s.Counted limit r w 0 := counted_of_dispatch hd
    (Dispatcher.dispatch_counts he (Dispatcher.encodingEffects_failures _))
  have ho := congrArg Prod.fst (Dispatcher.dispatch_of_ended he)
  simp only [Dispatcher.answer_fst, Dispatcher.encoding] at ho
  have hr := respond_of_outcome hd ho
  by_cases hw : ∃ v e, s.dispatcher.encoder.successEnvelope reply = .ok v ∧
      s.dispatcher.encoder.Writes r.headers v e
  · obtain ⟨v, e, hv, hw⟩ := hw
    have hs : s.dispatcher.encoder.encodeSuccess r.headers reply = .ok (e, []) := by
      simp only [Reply.Encoder.encodeSuccess, hv, Reply.Encoder.encode_of_writes hw]
    rw [hs] at hr
    exact .delivered ⟨route, reply, z, v, e, hd, he, hv, hw, hr⟩ hn
  · have hl : ∀ v, s.dispatcher.encoder.successEnvelope reply = .ok v →
        ∀ e, ¬ s.dispatcher.encoder.Writes r.headers v e :=
      fun v hv e he => hw ⟨v, e, hv, he⟩
    refine .undelivered (.inl ⟨route, reply, z, hd, he, hl⟩) hn ?_
    -- a codec that fails leaves the reply headers to the fixed body, one that panics does not
    cases hs : s.dispatcher.encoder.encodeSuccess r.headers reply with
    | error p =>
      rw [hs] at hr
      exact ⟨.empty, hr⟩
    | ok e =>
      rw [hs] at hr
      rcases Reply.Encoder.encodeSuccess_eq_ok hs with hf | ⟨v, hv, hwr⟩
      · exact ⟨z.reply.fields, by rw [hr, ← hf]; rfl⟩
      · exact absurd hwr (hl v hv e.1)

lemma verdict_of_refusal (hm : s.dispatcher.tracer.measures = true) {e : ServiceError}
    (hd : s.destination r.method r.uri.path = .route route)
    (hi : Dispatcher.input route.shape s.dispatcher.maxBodyBytes r = .error e) :
    Verdict s limit r w := by
  have hx := s.dispatcher.dispatch_of_input_error hi limit w
  have hno : ∀ other v, s.destination r.method r.uri.path = .route other →
      Dispatcher.input other.shape s.dispatcher.maxBodyBytes r ≠ .ok v := by
    intro other v ho
    obtain rfl : other = route := Destination.route.inj (ho.symm.trans hd)
    simp [hi]
  have hu : s.Unreplied limit r w := by
    intro other reply z ho he
    obtain ⟨v, _, hv, -⟩ := Dispatcher.ended_of he
    exact hno other v ho hv
  refine .failed hu.not_delivers hu.not_loses (fun ⟨other, v, ho, hv, _⟩ => hno other v ho hv) ?_ ?_
  · rw [respond_of_outcome hd (congrArg Prod.fst hx)]
    exact Option.some_ne_none _
  · apply counted_of_dispatch hd
    rw [hx]
    exact Dispatcher.reject_counts hm e

lemma verdict_of_error (hm : s.dispatcher.tracer.measures = true) {e : ServiceError} {z : Exchange}
    (hd : s.destination r.method r.uri.path = .route route)
    (he : s.dispatcher.ended? limit route r w = some (.returned (.error e), z)) :
    Verdict s limit r w := by
  have hu : s.Unreplied limit r w := unreplied_of_ended hd he (by simp)
  have ho := congrArg Prod.fst (Dispatcher.dispatch_of_ended he)
  simp only [Dispatcher.answer_fst] at ho
  refine .failed hu.not_delivers hu.not_loses (not_overflows_of_ended he) ?_ ?_
  · rw [respond_of_outcome hd ho]
    exact Option.some_ne_none _
  · exact counted_of_dispatch hd
      (Dispatcher.dispatch_counts he (Dispatcher.failureEffects_failures hm e))

lemma verdict_of_overflow {v : Json} (hd : s.destination r.method r.uri.path = .route route)
    (hi : Dispatcher.input route.shape s.dispatcher.maxBodyBytes r = .ok v)
    (he : s.dispatcher.ended? limit route r w = none) : Verdict s limit r w := by
  have hx := Dispatcher.dispatch_of_overflow hi he
  have ha := Dispatcher.after?_eq_none hi he
  refine .undelivered (.inr ⟨route, v, hd, hi, ha⟩) ?_ ⟨.empty, ?_⟩
  · apply counted_of_dispatch hd
    rw [hx]
    exact World.Counts.refl _ _ w
  · rw [respond_of_route hd, hx]
    rfl

lemma verdict (hm : s.dispatcher.tracer.measures = true) (hf : s.fallback.measures = true) :
    Verdict s limit r w := by
  cases hd : s.destination r.method r.uri.path with
  | nowhere | wrongMethod =>
    refine failed_of_unrouted (by simp [hd]) (by simp [respond, answer, hd]) ?_
    simp only [Counted, respond, answer, hd]
    exact report_counts hf (by decide) _ _ _ w
  | route route =>
    cases hi : Dispatcher.input route.shape s.dispatcher.maxBodyBytes r with
    | error e => exact verdict_of_refusal hm hd hi
    | ok v =>
      cases he : s.dispatcher.ended? limit route r w with
      | none => exact verdict_of_overflow hd hi he
      | some ended =>
        obtain ⟨h, z⟩ := ended
        cases h with
        | returned result =>
          cases result with
          | ok reply => exact verdict_of_reply hd he
          | error e => exact verdict_of_error hm hd he
        -- a panic of the handler is an error by now
        | panicked p => exact absurd he (Dispatcher.ended_not_panicked p z)
        | abandoned =>
          have hu : s.Unreplied limit r w := unreplied_of_ended hd he (by simp)
          refine .left hu.not_loses (not_overflows_of_ended he) ?_
            (counted_of_dispatch hd (Dispatcher.dispatch_counts he rfl))
          rw [respond_of_route hd, Dispatcher.dispatch_of_ended he]
          rfl

lemma Delivers.not_undelivered (h : s.Delivers limit r w) :
    ¬ (s.Loses limit r w ∨ s.Overflows r w) := by
  obtain ⟨route, reply, z, v, e, hd, he, -, -, -⟩ := id h
  exact not_or_intro h.not_loses (not_overflows_of_ended he)

lemma Verdict.counted (h : Verdict s limit r w) :
    s.Counted limit r w (s.failures limit r w) := by
  have hs : ∀ n, s.Counted limit r w n → s.Counted limit r w (s.failures limit r w) := by
    intro n hn
    have he : s.failures limit r w = n := hn.since
    rwa [he]
  cases h with
  | delivered _ hn => exact hs 0 hn
  | undelivered _ hn _ => exact hs 0 hn
  | left _ _ _ hn => exact hs 0 hn
  | failed _ _ _ _ hn => exact hs 1 hn

lemma not_accounts_of_zero (h : ¬ s.Delivers limit r w) (hn : s.Counted limit r w 0) :
    ¬ s.Accounts limit r w := by
  intro ha
  have h0 : s.failures limit r w = 0 := hn.since
  have h1 := ha.2 h
  omega

lemma Verdict.accounts_iff (h : Verdict s limit r w) :
    s.Accounts limit r w ↔
      (s.respond limit r w).1 ≠ none ∧ ¬ s.Loses limit r w ∧ ¬ s.Overflows r w := by
  cases h with
  | delivered h hn =>
    obtain ⟨_, _, _, _, _, -, -, -, -, hr⟩ := id h
    have hu := not_or.mp h.not_undelivered
    exact iff_of_true ⟨fun _ => hn.since, fun hx => absurd h hx⟩ ⟨by simp [hr], hu.1, hu.2⟩
  | undelivered h hn hr =>
    exact iff_of_false (not_accounts_of_zero (fun hx => hx.not_undelivered h) hn)
      fun ⟨_, hl, ho⟩ => not_or_intro hl ho h
  | left hl ho hr hn =>
    refine iff_of_false (not_accounts_of_zero ?_ hn) fun ⟨hs, _⟩ => hs hr
    rintro ⟨_, _, _, _, _, -, -, -, -, hs⟩
    rw [hr] at hs
    contradiction
  | failed h hl ho ha hn =>
    exact iff_of_true ⟨fun hx => absurd hx h, fun _ => hn.since⟩ ⟨ha, hl, ho⟩

lemma Verdict.undelivered_response (h : Verdict s limit r w)
    (hx : s.Loses limit r w ∨ s.Overflows r w) : s.failures limit r w = 0 ∧ ∃ left,
      (s.respond limit r w).1 = some ((Response.withReply .fallback left).framed r.method) := by
  cases h with
  | delivered h hn => exact absurd hx h.not_undelivered
  | undelivered h hn hr => exact ⟨hn.since, hr⟩
  | left hl ho hr hn => exact absurd hx (not_or_intro hl ho)
  | failed h hl ho ha hn => exact absurd hx (not_or_intro hl ho)

lemma build_root (c : Config) (route : Route) : ∃ s,
    ((Builder.new c).route ⟨"POST", "/", route⟩).build = .ok s ∧
      s.destination "POST" "/" = .route route := by
  let b := (Builder.new c).route ⟨"POST", "/", route⟩
  have hr : ∀ r ∈ b.registrations, r.AtRoot := by
    intro r hr
    obtain rfl : r = ⟨"POST", "/", route⟩ := List.mem_singleton.mp hr
    exact ⟨by simp [supportedMethods], rfl⟩
  exact ⟨.atRoot b, Builder.build_root (List.cons_ne_nil _ _) hr,
    destination_root [("POST", route)] rfl "POST"⟩

def single (handler : Handler) : Service where
  dispatcher := ({ Builder.new {} with measures := true }).dispatcher
  fallback := .ofConfig {} true
  bindings := [⟨"/", [.literal '/'], [("POST", ⟨"/Greeter/Hello", .any, handler⟩)]⟩]

def singleBuilder (handler : Handler) : Builder :=
  { Builder.new {} with
    measures := true
    registrations := [⟨"POST", "/", ⟨"/Greeter/Hello", .any, handler⟩⟩] }

lemma singleBuilder_build (handler : Handler) :
    (singleBuilder handler).build = .ok (single handler) := by
  refine Builder.build_root (List.cons_ne_nil _ _) fun r hr => ?_
  rw [List.mem_singleton.mp hr]
  exact ⟨by simp [supportedMethods], rfl⟩

lemma single_destination (handler : Handler) :
    (single handler).destination "POST" "/" = .route ⟨"/Greeter/Hello", .any, handler⟩ :=
  destination_root [("POST", ⟨"/Greeter/Hello", .any, handler⟩)] rfl "POST"

def posted : Request := ⟨"POST", ⟨"/", none⟩, .empty, []⟩

lemma single_ended (p : Payload) :
    ∃ z, (single fun _ _ => .reply p).dispatcher.ended? 9
      ⟨"/Greeter/Hello", .any, fun _ _ => .reply p⟩ posted (.start 0 (.memory .empty)) =
        some (.returned (.ok p), z) := by
  let d := (single fun _ _ => .reply p).dispatcher
  let route : Route := ⟨"/Greeter/Hello", .any, fun _ _ => .reply p⟩
  have hv : Dispatcher.input route.shape d.maxBodyBytes posted = .ok (.object []) := rfl
  have ht : (World.start 0 (.memory .empty)).issue.2.after? 10 = some 10000 := rfl
  exact ⟨_, Dispatcher.ended_of_started (Dispatcher.started?_eq hv ht rfl) 9⟩

/-- A request with a response is counted as failed once if its client gets no success, and else not
at all, unless its handler has replied in vain or its deadline is too late for the clock: then the
client gets the fixed body, and nothing is counted. -/
theorem counts_failures_iff (b : Builder) {s : Service} (hb : b.build = .ok s)
    (hm : b.measures = true) (limit : Instant) (r : Request) (w : World) :
    (s.Accounts limit r w ↔ (s.respond limit r w).1 ≠ none ∧ ¬ s.Loses limit r w ∧
      ¬ s.Overflows r w) ∧
    (s.Loses limit r w ∨ s.Overflows r w → s.failures limit r w = 0 ∧ ∃ left,
      (s.respond limit r w).1 = some ((Response.withReply .fallback left).framed r.method)) ∧
    ∀ st, w.sink = .memory st → ∃ st', (s.respond limit r w).2.sink = .memory st' ∧
      st'.failuresOf r.method r.uri.path =
        st.failuresOf r.method r.uri.path + s.failures limit r w := by
  obtain ⟨hd, hf⟩ := measures_of_build hb
  have hv : Verdict s limit r w := verdict (hd.trans hm) (hf.trans hm)
  exact ⟨hv.accounts_iff, hv.undelivered_response,
    fun st hst => World.Counts.store hv.counted hst⟩

theorem counts_failures_iff_greeting :
    let greet : Handler := fun _ _ => .reply (.string "hello")
    let s := single greet
    let w := World.start 0 (.memory .empty)
    ((singleBuilder greet).build = .ok s ∧ (singleBuilder greet).measures = true) ∧
    (s.Accounts 9 posted w ↔ (s.respond 9 posted w).1 ≠ none ∧ ¬ s.Loses 9 posted w ∧
      ¬ s.Overflows posted w) ∧
    (s.Loses 9 posted w ∨ s.Overflows posted w → s.failures 9 posted w = 0 ∧ ∃ left,
      (s.respond 9 posted w).1 = some ((Response.withReply .fallback left).framed posted.method)) ∧
    ∀ st, w.sink = .memory st → ∃ st', (s.respond 9 posted w).2.sink = .memory st' ∧
      st'.failuresOf posted.method posted.uri.path =
        st.failuresOf posted.method posted.uri.path + s.failures 9 posted w := by
  intro greet s w
  have hb : (singleBuilder greet).build = .ok s := singleBuilder_build greet
  exact ⟨⟨hb, rfl⟩, counts_failures_iff (singleBuilder greet) hb rfl 9 posted w⟩

theorem unencodable_reply_uncounted :
    let greet : Handler := fun _ _ => .reply (.message (.table [(.other, .null)]))
    let w := World.start 0 (.memory .empty)
    (singleBuilder greet).build = .ok (single greet) ∧ (singleBuilder greet).measures = true ∧
      ((single greet).respond 9 posted w).1 ≠ none ∧ (single greet).failures 9 posted w = 0 ∧
      ¬ (single greet).Delivers 9 posted w ∧ ¬ (single greet).Accounts 9 posted w := by
  intro greet w
  obtain ⟨z, he⟩ := single_ended (.message (.table [(.other, .null)]))
  have hl : (single greet).Loses 9 posted w := by
    refine ⟨_, _, z, single_destination greet, he, ?_⟩
    intro v hv
    contradiction
  have hv : Verdict (single greet) 9 posted w := verdict rfl rfl
  obtain ⟨hn, left, hr⟩ := hv.undelivered_response (.inl hl)
  refine ⟨singleBuilder_build greet, rfl, ?_, hn, fun hd => hd.not_loses hl, ?_⟩
  · rw [hr]
    exact Option.some_ne_none _
  · intro ha
    exact (hv.accounts_iff.mp ha).2.1 hl

end Http.Service

end RpcServer
