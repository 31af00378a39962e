import RpcServer.Proofs.InFlight

/-! Who can cancel the context of a request: those who hold a copy of it as long as its dispatch goes on,
and the server when that is over. A request that is dispatched alone is one of those in flight. -/

namespace RpcServer.Http.Flights

open Program

variable {s : Flights} {i : ℕ} {σ : Signal} {f : Flight} {fs : List Flight} {x : Exchange}
  {k : Tracer.Call} {q : Pause} {p : Program}

lemma moveTo_quiet {w : World} (hd : w.due = []) (t : Instant) : Quiet w (w.moveTo t) := by
  by_cases h : t ≤ w.now
  · rw [World.moveTo_of_le h]
    exact ⟨Nat.le_refl _, rfl, rfl⟩
  · rw [World.moveTo_of_lt (Int.not_le.mp h), hd]
    exact ⟨Nat.le_refl _, hd.symm, rfl⟩

def waitUntil (t : Instant) : Move := .elsewhere (·.moveTo t) fun _ hd => moveTo_quiet hd t

def withLast (fs : List Flight) (f : Flight) (b : Stage × Exchange) : Flights :=
  ⟨b.2.world, fs ++ [f.keep b.1 b.2]⟩

lemma own_last (fs : List Flight) (f : Flight) (st : Stage) (x : Exchange) (ev : Flight.Event) :
    (withLast fs f (st, x)).move (.own fs.length ev) =
      withLast fs f ((f.keep st x).react x ev) := by
  have hl : (withLast fs f (st, x)).flights[fs.length]? = some (f.keep st x) :=
    List.getElem?_concat_length
  rw [move, own_of_some hl, withLast]
  simp only [withLast, List.set_append_right _ _ (Nat.le_refl _), Nat.sub_self, List.set_cons_zero]
  rfl

lemma step_last (fs : List Flight) (f : Flight) (k : Tracer.Call) (p : Program) (x : Exchange) :
    (withLast fs f (.running k p, x)).move (.own fs.length .step) =
      withLast fs f (Stage.advance k x p) := own_last fs f (.running k p) x .step

lemma wake_last (hp : Stage.advance k x p = (.paused k q, x)) {u : Instant} {e : ServiceError}
    {next : Program} (h : q.woken? (x.world.moveTo u) k.context e = some next) :
    (withLast fs f (.running k p, x)).after
        [.own fs.length .step, waitUntil u, .own fs.length (.wake e)] =
      withLast fs f (.running k next, { x with world := x.world.moveTo u }) := by
  have hw : Stage.wake (x.world.moveTo u) e (.paused k q) = .running k next := by
    simp only [Stage.wake, h]
  rw [after_cons, step_last, hp]
  refine (own_last fs f (.paused k q) { x with world := x.world.moveTo u } (.wake e)).trans ?_
  exact congrArg (fun st => withLast fs f (st, _)) hw

lemma drop_last (hp : Stage.advance k x p = (.paused k q, x)) (h : q.isEnded = false)
    (u : Instant) :
    (withLast fs f (.running k p, x)).after
        [.own fs.length .step, waitUntil u, .own fs.length .drop] =
      withLast fs f (.paused k (.ended .abandoned), { x with world := x.world.moveTo u }) := by
  have hd : Stage.drop (.paused k q) = .paused k (.ended .abandoned) := by
    simp only [Stage.drop, h, Bool.false_eq_true, if_false]
  rw [after_cons, step_last, hp]
  refine (own_last fs f (.paused k q) { x with world := x.world.moveTo u } .drop).trans ?_
  exact congrArg (fun st => withLast fs f (st, _)) hd

/-- A request that is alone goes on as its program runs: where it waits, the clock goes on, and then it
is woken or its caller leaves. -/
lemma run_schedule (fs : List Flight) (f : Flight) (k : Tracer.Call) (limit : Instant)
    (p : Program) (x : Exchange) :
    let run := p.run k.context limit x
    ∃ ms, (withLast fs f (.running k p, x)).after ms =
      withLast fs f (.paused k (.ended run.1), run.2) := by
  -- The world in which the rest of the program runs is the one that its first step leaves.
  induction p generalizing x with
  | reply r => exact ⟨[.own fs.length .step], step_last fs f k (.reply r) x⟩
  | fail e => exact ⟨[.own fs.length .step], step_last fs f k (.fail e) x⟩
  | panic p => exact ⟨[.own fs.length .step], step_last fs f k (.panic p) x⟩
  | act a next ih =>
    obtain ⟨ms, h⟩ := ih (perform k.context x a)
    refine ⟨.own fs.length .step :: ms, ?_⟩
    rw [after_cons, step_last]
    exact h
  | look next ih =>
    obtain ⟨ms, h⟩ := ih (view k.context x) x
    refine ⟨.own fs.length .step :: ms, ?_⟩
    rw [after_cons, step_last]
    exact h
  | sleep ms next ih =>
    let u : Instant := x.world.now + ms
    by_cases hu : u ≤ limit
    · have hr : (Program.sleep ms next).run k.context limit x =
          next.run k.context limit { x with world := x.world.moveTo u } := if_pos hu
      have hw : (Pause.asleep u next).woken? (x.world.moveTo u) k.context .cancelled = some next :=
        if_pos (x.world.le_moveTo_now u)
      obtain ⟨later, h⟩ := ih { x with world := x.world.moveTo u }
      rw [← hr, ← wake_last (p := .sleep ms next) rfl hw, ← after_append] at h
      exact ⟨_, h⟩
    · have hr : (Program.sleep ms next).run k.context limit x =
          (.abandoned, { x with world := x.world.moveTo limit }) := if_neg hu
      rw [hr]
      exact ⟨_, drop_last (p := .sleep ms next) rfl rfl limit⟩
  | awaitDone next favoured ih =>
    rcases run_awaitDone k.context limit next favoured x with hr | ⟨u, e, hw, hr⟩
    · rw [hr]
      exact ⟨_, drop_last (p := .awaitDone next favoured) rfl rfl limit⟩
    · obtain ⟨later, h⟩ := ih e { x with world := x.world.moveTo u }
      rw [← hr, ← wake_last (p := .awaitDone next favoured) rfl hw, ← after_append] at h
      exact ⟨_, h⟩
  | hang => exact ⟨_, drop_last (p := .hang) rfl rfl limit⟩

lemma leave_schedule (fs : List Flight) (f : Flight) (o : Outcome) (x : Exchange) :
    (withLast fs f (.settled o, x)).after [.own fs.length .step] =
      withLast fs f (.closed o, x.cancel f.signal) := own_last fs f (.settled o) x .step

lemma answer_schedule (fs : List Flight) (f : Flight) (h : Halt) (x : Exchange) :
    let a := f.dispatcher.answer f.request h x
    (withLast fs f (.finished h, x)).after [.own fs.length .step, .own fs.length .step] =
      withLast fs f (.closed a.1, ({ x with world := a.2 } : Exchange).cancel f.signal) := by
  intro a
  have hf := own_last fs f (.finished h) x .step
  rw [after_cons, hf]
  exact leave_schedule fs f a.1 { x with world := a.2 }

lemma finish_schedule (fs : List Flight) (f : Flight) (k : Tracer.Call) (h : Halt) (x : Exchange) :
    (withLast fs f (.paused k (.ended h), x)).after [.own fs.length .step] =
      withLast fs f (.finished h, f.dispatcher.tracer.finish k h x) :=
  own_last fs f (.paused k (.ended h)) x .step

lemma board_schedule (fs : List Flight) (f : Flight) (route : Route) (v : Json) (w : World)
    (limit : Instant) {deadline : Instant} (ha : w.after? f.dispatcher.timeoutSecs = some deadline) :
    let served := f.dispatcher.tracer.serve limit (Operation.service route.handler)
      (f.dispatcher.context route f.request f.signal deadline) (.document v) (.start w)
    ∃ ms, (withLast fs f (board f.dispatcher route f.request v f.signal w)).after ms =
      withLast fs f (.finished served.1, served.2) := by
  simp only [board, ha]
  cases hd : w.done? (f.dispatcher.context route f.request f.signal deadline) with
  | some e =>
    have hx : (Exchange.start w).world.done? _ = some e := hd
    rw [Tracer.serve_done f.dispatcher.tracer hx]
    exact ⟨[], rfl⟩
  | none =>
    have hx : (Exchange.start w).world.done? _ = none := hd
    rw [Tracer.serve_eq hx rfl]
    let k := Tracer.Call.start (f.dispatcher.context route f.request f.signal deadline)
      (f.dispatcher.transport route f.request) w.now
    obtain ⟨ms, h⟩ := run_schedule fs f k limit
      (Operation.service route.handler k.context (.document v))
      (f.dispatcher.tracer.enter k (.document v) (.start w))
    refine ⟨ms ++ [.own fs.length .step], ?_⟩
    rw [after_append, h]
    exact finish_schedule fs f k _ _

lemma dispatch_schedule (s : Flights) (d : Dispatcher) (limit : Instant) (route : Route) (r : Request)
    {v : Json} (h : Dispatcher.input route.shape d.maxBodyBytes r = .ok v) :
    let dispatched := d.dispatch limit route r s.world
    ∃ ms f, s.after (.arrive d route r :: ms) = ⟨dispatched.2, s.flights ++ [f]⟩ ∧
      f.signal = s.world.issue.1 ∧ f.stage = .closed dispatched.1 := by
  let σ := s.world.issue.1
  let w := s.world.issue.2
  let f : Flight := ⟨d, r, σ, .empty, none, .closed .abandoned⟩
  have harrive : s.move (.arrive d route r) = withLast s.flights f (board d route r v σ w) := by
    simp only [move, arrive, h]
    rfl
  simp only [after_cons, harrive, Dispatcher.dispatch, h, Dispatcher.call]
  cases ha : w.after? d.timeoutSecs with
  | none =>
    have hb : board d route r v σ w = (.settled (.panicked .clockOverflow), .start w) := by
      simp only [board, ha]
    rw [hb]
    exact ⟨_, _, leave_schedule s.flights f _ _, rfl, rfl⟩
  | some deadline =>
    obtain ⟨ms, hms⟩ := board_schedule s.flights f route v w limit ha
    have hover := answer_schedule s.flights f
      (d.tracer.serve limit (Operation.service route.handler) (d.context route r σ deadline)
        (.document v) (.start w)).1 (d.tracer.serve limit (Operation.service route.handler)
        (d.context route r σ deadline) (.document v) (.start w)).2
    rw [← hms, ← after_append] at hover
    exact ⟨_, _, hover, rfl, rfl⟩

/-- A request in flight after `ms`. Whoever holds a copy of its context finds it cancelled when the
dispatch is over, for ever then, and before that only if the handler's side has cancelled it. -/
structure Guarded (s₀ : Flights) (ms : List Move) (i : ℕ) (f : Flight) : Prop where
  context : ∀ k, f.stage.call? = some k → k.context.signal = f.signal
  cancelled : ∀ c : Context, c.signal = f.signal →
    ((s₀.after ms).world.done? c = some .cancelled ↔ f.stage.IsOver ∨ s₀.Cancelled ms i)
  stays : f.stage.IsOver → ∀ later, ∀ c : Context, c.signal = f.signal →
    (s₀.after (ms ++ later)).world.done? c = some .cancelled
  alone : ∀ j g, (s₀.after ms).flights[j]? = some g → g.signal = f.signal → j = i
  others : ∀ m, (∀ ev, m ≠ .own i ev) → ∀ c : Context, c.signal = f.signal →
    ((s₀.after (ms ++ [m])).world.done? c = some .cancelled ↔
      (s₀.after ms).world.done? c = some .cancelled)

lemma revoked_iff_done? (h : s.signals[i]? = some σ) {c : Context} (hc : c.signal = σ) :
    s.Revoked i ↔ s.world.done? c = some .cancelled := by
  rw [World.done?_eq_cancelled, World.isCancelled_iff_mem, hc]
  constructor
  · rintro ⟨τ, hτ, hm⟩
    obtain rfl := Option.some.inj (h.symm.trans hτ)
    exact hm
  · exact fun hm => ⟨σ, h, hm⟩

lemma over_iff (h : s.flights[i]? = some f) : s.Over i ↔ f.stage.IsOver := by
  simp only [Over, h, Option.some.injEq, exists_eq_left']

lemma guarded (epoch : ℕ) (sink : Metrics.Sink) {ms : List Move}
    (h : ((start epoch sink).after ms).flights[i]? = some f) :
    Guarded (start epoch sink) ms i f := by
  have hs := after_sound (start_sound epoch sink) ms
  have hσ := signals_getElem? h
  have hlater : ∀ later, ((start epoch sink).after (ms ++ later)).signals[i]? = some f.signal := by
    intro later
    obtain ⟨rest, hr⟩ := signals_after hs later
    rw [after_append, ← hr]
    exact (List.getElem?_append_left (List.getElem?_eq_some_iff.mp hσ).1).trans hσ
  have hcancelled : ∀ c : Context, c.signal = f.signal →
      (((start epoch sink).after ms).world.done? c = some .cancelled ↔
        f.stage.IsOver ∨ (start epoch sink).Cancelled ms i) := by
    intro c hc
    rw [← revoked_iff_done? hσ hc, revoked_iff, over_iff h]
  constructor
  case context => exact hs.context f (List.mem_of_getElem? h)
  case cancelled => exact hcancelled
  case stays =>
    intro ho later c hc
    rw [← revoked_iff_done? (hlater later) hc, revoked_iff, after_append]
    exact .inl (Over.after hs ((over_iff h).mpr ho) later)
  case alone =>
    intro j g hg he
    have hj := signals_getElem? hg
    obtain ⟨hlt, -⟩ := List.getElem?_eq_some_iff.mp hj
    rw [he, ← hσ] at hj
    exact (List.getElem?_inj hlt hs.nodup).mp hj
  case others =>
    intro m hm c hc
    -- The move is no event of this request, so neither its side nor the server's is at work.
    have hd : ∀ P, ¬ ((start epoch sink).after ms).Does P m i := by
      rintro P ⟨g, ev, rfl, -⟩
      exact hm ev rfl
    rw [← revoked_iff_done? (hlater [m]) hc, ← revoked_iff_done? hσ hc, after_snoc,
      (move_moves hs m).revoked, Cancels, Leaves, or_iff_left (not_or.mpr ⟨hd _, hd _⟩)]

/-- The context of a request is cancelled just when the server stops waiting for its handler, unless the
handler's side cancels it before, and nothing that happens to other requests touches it. The dispatch
of a request alone, with any outcome, is one of the ways that things can go. -/
theorem cancelled_when_over (epoch : ℕ) (sink : Metrics.Sink) (ms : List Move) :
    let s := (start epoch sink).after ms
    (∀ i f, s.flights[i]? = some f → Guarded (start epoch sink) ms i f) ∧
    ∀ d limit route r v, Dispatcher.input route.shape d.maxBodyBytes r = .ok v →
      let dispatched := d.dispatch limit route r s.world
      ∃ later f, s.after (.arrive d route r :: later) = ⟨dispatched.2, s.flights ++ [f]⟩ ∧
        f.signal = s.world.issue.1 ∧ f.stage = .closed dispatched.1 :=
  ⟨fun _ _ h => guarded epoch sink h,
    fun d limit route r _ h => dispatch_schedule _ d limit route r h⟩

def twoRequests : List Move :=
  let d : Dispatcher := ⟨⟨.new, ⟨none, 500⟩, 0, "ok"⟩, {}, "http://localhost", 5, 0⟩
  let r : Request := ⟨"POST", ⟨"/hello", none⟩, .empty, []⟩
  let idle : Route := ⟨"/Greeter/Hello", .any, fun _ v => .sleep 20 (.reply (.document v))⟩
  let hasty : Route := ⟨"/Greeter/Hello", .any, fun _ _ => .act .cancel .hang⟩
  [.arrive d idle r, .arrive d hasty r, .own 0 .step, .own 1 .step, .own 0 .step, .own 1 .step,
    waitUntil 10, .own 0 .drop, .own 0 .step, .own 0 .step]

theorem cancelled_when_over_dropped :
    let s := (start 0 .discard).after twoRequests
    (∃ f, s.flights[0]? = some f ∧ f.signal = ⟨0⟩ ∧ f.stage = .settled .abandoned ∧
      Guarded (start 0 .discard) twoRequests 0 f) ∧
    (∃ f, s.flights[1]? = some f ∧ f.signal = ⟨1⟩ ∧
      Guarded (start 0 .discard) twoRequests 1 f) ∧
    s.world.done? (.new ⟨0⟩) = none ∧ s.world.done? (.new ⟨1⟩) = some .cancelled ∧
    (s.move (.own 0 .step)).world.done? (.new ⟨0⟩) = some .cancelled := by
  intro s
  have hf : ∃ f, s.flights[0]? = some f ∧ f.signal = ⟨0⟩ ∧ f.stage = .settled .abandoned :=
    ⟨_, rfl, rfl, rfl⟩
  have hg : ∃ f, s.flights[1]? = some f ∧ f.signal = ⟨1⟩ := ⟨_, rfl, rfl⟩
  obtain ⟨f, hf, hs⟩ := hf
  obtain ⟨g, hg, ht⟩ := hg
  obtain ⟨hguard, -⟩ := cancelled_when_over 0 .discard twoRequests
  exact ⟨⟨f, hf, hs.1, hs.2, hguard 0 f hf⟩, ⟨g, hg, ht, hguard 1 g hg⟩, rfl, rfl, rfl⟩

end RpcServer.Http.Flights
