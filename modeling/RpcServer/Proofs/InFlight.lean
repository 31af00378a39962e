import RpcServer.Proofs.Doneness
import RpcServer.Proofs.Settlement
import RpcServer.Proofs.Traffic

/-! Requests in flight, each of which goes on step by step while others do. The signal of one is cancelled
by the handler's side and by the server that stops waiting, and by nothing else. -/

namespace RpcServer.Http

open Program

/-- How far the dispatch of a request has come: the operation runs or waits, it has ended and the
call is measured, the answer is made, the dispatch is over. -/
inductive Stage where
  | running (k : Tracer.Call) (p : Program)
  | paused (k : Tracer.Call) (q : Pause)
  | finished (h : Halt)
  | settled (o : Outcome)
  | closed (o : Outcome)

namespace Stage

def call? : Stage → Option Tracer.Call
  | running k _ | paused k _ => some k
  | finished _ | settled _ | closed _ => none

def IsOver (st : Stage) : Prop := ∃ o, st = closed o

def advance (k : Tracer.Call) (x : Exchange) : Program → Stage × Exchange
  | .reply p => (paused k (.ended (.returned (.ok p))), x)
  | .fail e => (paused k (.ended (.returned (.error e))), x)
  | .panic p => (paused k (.ended (.panicked p)), x)
  | .act a next => (running k next, perform k.context x a)
  | .look next => (running k (next (view k.context x)), x)
  | .sleep ms next => (paused k (.asleep (x.world.now + ms) next), x)
  | .awaitDone next _ => (paused k (.awaiting next), x)
  | .hang => (paused k .hung, x)

def wake (w : World) (e : ServiceError) : Stage → Stage
  | paused k q =>
    match q.woken? w k.context e with
    | some p => running k p
    | none => paused k q
  | st => st

def drop : Stage → Stage
  | paused k q => if q.isEnded then paused k q else paused k (.ended .abandoned)
  | st => st

end Stage

structure Flight where
  dispatcher : Dispatcher
  request : Request
  signal : Signal
  reply : ReplyHeaders
  span : Option Log.Span
  stage : Stage

namespace Flight

inductive Event where
  | step
  | wake (e : ServiceError)
  | drop
  | cancel

def exchange (f : Flight) (w : World) : Exchange := ⟨w, f.reply, f.span⟩

def keep (f : Flight) (st : Stage) (x : Exchange) : Flight :=
  { f with reply := x.reply, span := x.span, stage := st }

def next (f : Flight) (x : Exchange) : Stage × Exchange :=
  match f.stage with
  | .running k p => Stage.advance k x p
  | .paused k (.ended h) => (.finished h, f.dispatcher.tracer.finish k h x)
  | .paused k q => (.paused k q, x)
  | .finished h =>
    let a := f.dispatcher.answer f.request h x
    (.settled a.1, { x with world := a.2 })
  | .settled o => (.closed o, x.cancel f.signal)
  | .closed o => (.closed o, x)

def react (f : Flight) (x : Exchange) : Event → Stage × Exchange
  | .step => f.next x
  | .wake e => (f.stage.wake x.world e, x)
  | .drop => (f.stage.drop, x)
  | .cancel => (f.stage, x.cancel f.signal)

def Cancels (f : Flight) : Event → Prop
  | .step => ∃ k next, f.stage = .running k (.act .cancel next)
  | .cancel => True
  | .wake _ | .drop => False

def Leaves (f : Flight) (ev : Event) : Prop := ev = .step ∧ ∃ o, f.stage = .settled o

end Flight

structure Flights where
  world : World
  flights : List Flight

namespace Flights

def start (epoch : ℕ) (sink : Metrics.Sink) : Flights := ⟨.start epoch sink, []⟩

def board (d : Dispatcher) (route : Route) (r : Request) (v : Json) (s : Signal) (w : World) :
    Stage × Exchange :=
  match w.after? d.timeoutSecs with
  | none => (.settled (.panicked .clockOverflow), .start w)
  | some deadline =>
    let c := d.context route r s deadline
    match w.done? c with
    | some e => (.finished (.returned (.error e)), .start w)
    | none =>
      let k := Tracer.Call.start c (d.transport route r) w.now
      (.running k (Operation.service route.handler k.context (.document v)),
        d.tracer.enter k (.document v) (.start w))

def arrive (s : Flights) (d : Dispatcher) (route : Route) (r : Request) : Flights :=
  match Dispatcher.input route.shape d.maxBodyBytes r with
  | .error e => { s with world := (d.reject r e s.world).2 }
  | .ok v =>
    let (σ, w) := s.world.issue
    let b := board d route r v σ w
    ⟨b.2.world, s.flights ++ [⟨d, r, σ, b.2.reply, b.2.span, b.1⟩]⟩

def own (s : Flights) (i : ℕ) (ev : Flight.Event) : Flights :=
  match s.flights[i]? with
  | some f =>
    let r := f.react (f.exchange s.world) ev
    ⟨r.2.world, s.flights.set i (f.keep r.1 r.2)⟩
  | none => s

structure Quiet (v w : World) : Prop where
  issued : v.issued ≤ w.issued
  due : w.due = v.due
  cancelled : w.cancelled = v.cancelled

inductive Move where
  | arrive (d : Dispatcher) (route : Route) (r : Request)
  | own (i : ℕ) (ev : Flight.Event)
  | elsewhere (f : World → World) (quiet : ∀ w, w.due = [] → Quiet w (f w))

def move (s : Flights) : Move → Flights
  | .arrive d route r => s.arrive d route r
  | .own i ev => s.own i ev
  | .elsewhere f _ => { s with world := f s.world }

def after (s : Flights) (ms : List Move) : Flights := ms.foldl move s

def signals (s : Flights) : List Signal := s.flights.map (·.signal)

def Over (s : Flights) (i : ℕ) : Prop := ∃ f, s.flights[i]? = some f ∧ f.stage.IsOver

def Revoked (s : Flights) (i : ℕ) : Prop := ∃ σ, s.signals[i]? = some σ ∧ σ ∈ s.world.cancelled

def Does (P : Flight → Flight.Event → Prop) (s : Flights) (m : Move) (i : ℕ) : Prop :=
  ∃ f ev, m = .own i ev ∧ s.flights[i]? = some f ∧ P f ev

def Cancels (s : Flights) (m : Move) (i : ℕ) : Prop := s.Does Flight.Cancels m i

def Leaves (s : Flights) (m : Move) (i : ℕ) : Prop := s.Does Flight.Leaves m i

def Cancelled (s : Flights) (ms : List Move) (i : ℕ) : Prop :=
  Happened (fun past m => (s.after past).Cancels m i) ms

end Flights

namespace Stage

lemma wake_call (w : World) (e : ServiceError) (st : Stage) : (st.wake w e).call? = st.call? := by
  cases st with
  | paused k q =>
    rw [wake]
    cases q.woken? w k.context e <;> rfl
  | _ => rfl

lemma wake_over (w : World) (e : ServiceError) (st : Stage) : (st.wake w e).IsOver ↔ st.IsOver := by
  cases st with
  | paused k q =>
    rw [wake]
    cases q.woken? w k.context e <;> simp [IsOver]
  | _ => rfl

lemma drop_call (st : Stage) : st.drop.call? = st.call? := by
  cases st with
  | paused k q =>
    rw [drop]
    split <;> rfl
  | _ => rfl

lemma drop_over (st : Stage) : st.drop.IsOver ↔ st.IsOver := by
  cases st with
  | paused k q =>
    rw [drop]
    split <;> simp [IsOver]
  | _ => rfl

lemma advance_call (k : Tracer.Call) (x : Exchange) (p : Program) :
    (advance k x p).1.call? = some k := by
  cases p <;> rfl

lemma advance_over (k : Tracer.Call) (x : Exchange) (p : Program) :
    ¬ (advance k x p).1.IsOver := by
  cases p <;> simp [advance, IsOver]

lemma advance_still (k : Tracer.Call) (x : Exchange) {p : Program}
    (h : ∀ next, p ≠ .act .cancel next) : x.Still (advance k x p).2 := by
  cases p with
  | act a next =>
    cases a with
    | write w => exact x.write_still w
    | log e => exact x.log_still e
    | cancel => exact absurd rfl (h next)
    | invoke p => exact ⟨rfl, rfl, rfl, rfl, rfl⟩
  | _ => exact Exchange.Still.refl x

end Stage

namespace Flight

variable {f : Flight} {x : Exchange} {ev : Event} {k : Tracer.Call}

lemma react_call (h : (f.react x ev).1.call? = some k) : f.stage.call? = some k := by
  cases ev with
  | cancel => exact h
  | wake e => exact (Stage.wake_call x.world e f.stage).symm.trans h
  | drop => exact (Stage.drop_call f.stage).symm.trans h
  | step =>
    simp only [react, next] at h
    split at h
    · rename_i hs
      exact hs ▸ (Stage.advance_call _ _ _).symm.trans h
    · contradiction
    · rename_i hs
      exact hs ▸ h
    all_goals contradiction

lemma react_over (f : Flight) (x : Exchange) (ev : Event) :
    (f.react x ev).1.IsOver ↔ f.stage.IsOver ∨ f.Leaves ev := by
  obtain ⟨d, r, σ, reply, span, st⟩ := f
  cases ev with
  | cancel => simp [react, Leaves]
  | wake e => simp [react, Leaves, Stage.wake_over]
  | drop => simp [react, Leaves, Stage.drop_over]
  | step =>
    cases st with
    | running k p =>
      have hr : ¬ (Stage.running k p).IsOver := by simp [Stage.IsOver]
      simp [react, next, Leaves, Stage.advance_over, hr]
    | paused k q => cases q <;> simp [react, next, Leaves, Stage.IsOver]
    | _ => simp [react, next, Leaves, Stage.IsOver]

lemma react_still (hc : ¬ f.Cancels ev) (hl : ¬ f.Leaves ev) (x : Exchange) :
    x.Still (f.react x ev).2 := by
  obtain ⟨d, r, σ, reply, span, st⟩ := f
  cases ev with
  | cancel => exact absurd trivial hc
  | wake e => exact Exchange.Still.refl x
  | drop => exact Exchange.Still.refl x
  | step =>
    cases st with
    | running k p =>
      apply Stage.advance_still
      rintro next rfl
      exact hc ⟨k, next, rfl⟩
    | paused k q =>
      cases q with
      | ended h => exact Tracer.finish_still k h x
      | _ => exact Exchange.Still.refl x
    | finished h =>
      have ha := Dispatcher.answer_snd d r h x
      simp only [react, next]
      exact ⟨by rw [ha]; rfl, by rw [ha]; rfl, by rw [ha]; rfl, by rw [ha]; rfl, by rw [ha]; rfl⟩
    | settled o => exact absurd ⟨rfl, o, rfl⟩ hl
    | closed o => exact Exchange.Still.refl x

lemma react_cancel (hf : ∀ k, f.stage.call? = some k → k.context.signal = f.signal)
    (h : f.Cancels ev ∨ f.Leaves ev) (x : Exchange) : (f.react x ev).2 = x.cancel f.signal := by
  rcases h with h | ⟨rfl, o, ho⟩
  · cases ev with
    | wake e | drop => exact h.elim
    | cancel => rfl
    | step =>
      obtain ⟨k, next, hs⟩ := h
      have hk : k.context.signal = f.signal := hf k (by rw [hs]; rfl)
      simp only [react, Flight.next, hs, Stage.advance, perform, hk]
  · simp only [react, next, ho]

lemma react_world (hf : ∀ k, f.stage.call? = some k → k.context.signal = f.signal)
    (ev : Event) (x : Exchange) :
    (f.react x ev).2.world.issued = x.world.issued ∧ (f.react x ev).2.world.due = x.world.due ∧
    ∀ t, t ∈ (f.react x ev).2.world.cancelled ↔
      t ∈ x.world.cancelled ∨ t = f.signal ∧ (f.Cancels ev ∨ f.Leaves ev) := by
  by_cases h : f.Cancels ev ∨ f.Leaves ev
  · rw [react_cancel hf h]
    refine ⟨rfl, rfl, fun t => ?_⟩
    rw [and_iff_left h]
    exact List.mem_cons.trans or_comm
  · have hs := react_still (not_or.mp h).1 (not_or.mp h).2 x
    refine ⟨hs.issued, hs.due, fun t => ?_⟩
    rw [hs.cancelled, or_iff_left fun ht => h ht.2]

end Flight

namespace Flights

variable {s : Flights} {m : Move} {ms : List Move} {i j : ℕ} {σ : Signal} {f : Flight}

/-- Nothing is due to happen by itself, each request has a signal of its own, and its operation runs
in a context with that signal. -/
structure Sound (s : Flights) : Prop where
  due : s.world.due = []
  tidy : ∀ t ∈ s.world.cancelled, t.id < s.world.issued
  issued : ∀ t ∈ s.signals, t.id < s.world.issued
  nodup : s.signals.Nodup
  context : ∀ f ∈ s.flights, ∀ k, f.stage.call? = some k → k.context.signal = f.signal

lemma start_sound (epoch : ℕ) (sink : Metrics.Sink) : (start epoch sink).Sound where
  due := rfl
  tidy _ h := absurd h List.not_mem_nil
  issued _ h := absurd h List.not_mem_nil
  nodup := List.nodup_nil
  context _ h := absurd h List.not_mem_nil

structure Moves (s : Flights) (m : Move) (s' : Flights) : Prop where
  signals : s.signals <+: s'.signals
  ended : ∀ i, s'.Over i ↔ s.Over i ∨ s.Leaves m i
  revoked : ∀ i, s'.Revoked i ↔ s.Revoked i ∨ s.Cancels m i ∨ s.Leaves m i

variable {P : Flight → Flight.Event → Prop} {ev : Flight.Event}

lemma does_own (h : s.flights[i]? = some f) : s.Does P (.own i ev) j ↔ j = i ∧ P f ev := by
  constructor
  · rintro ⟨g, ev', hm, hg, hp⟩
    obtain ⟨rfl, rfl⟩ := Move.own.inj hm
    obtain rfl := Option.some.inj (h.symm.trans hg)
    exact ⟨rfl, hp⟩
  · rintro ⟨rfl, hp⟩
    exact ⟨f, ev, rfl, h, hp⟩

lemma not_does_own (h : s.flights[i]? = none) : ¬ s.Does P (.own i ev) j := by
  rintro ⟨f, ev', hm, hf, -⟩
  obtain ⟨rfl, -⟩ := Move.own.inj hm
  exact absurd (h.symm.trans hf) (by simp)

lemma signals_getElem? (h : s.flights[i]? = some f) : s.signals[i]? = some f.signal := by
  rw [signals, List.getElem?_map, h]
  rfl

lemma own_of_none (h : s.flights[i]? = none) (ev : Flight.Event) : s.own i ev = s := by
  simp only [own, h]

lemma own_of_some (h : s.flights[i]? = some f) (ev : Flight.Event) :
    let r := f.react (f.exchange s.world) ev
    s.own i ev = ⟨r.2.world, s.flights.set i (f.keep r.1 r.2)⟩ := by
  simp only [own, h]

lemma signals_own (s : Flights) (i : ℕ) (ev : Flight.Event) : (s.own i ev).signals = s.signals := by
  cases h : s.flights[i]? with
  | none => rw [own_of_none h]
  | some f =>
    obtain ⟨hlt, he⟩ := List.getElem?_eq_some_iff.mp (signals_getElem? h)
    rw [own_of_some h, signals, List.map_set]
    exact (congrArg (s.signals.set i) he.symm).trans (List.set_getElem_self hlt)

lemma own_world (hs : s.Sound) (h : s.flights[i]? = some f) (ev : Flight.Event) :
    (s.own i ev).world.issued = s.world.issued ∧ (s.own i ev).world.due = s.world.due ∧
    ∀ t, t ∈ (s.own i ev).world.cancelled ↔
      t ∈ s.world.cancelled ∨ t = f.signal ∧ (f.Cancels ev ∨ f.Leaves ev) := by
  rw [own_of_some h]
  exact f.react_world (hs.context f (List.mem_of_getElem? h)) ev (f.exchange s.world)

lemma own_sound (hs : s.Sound) (i : ℕ) (ev : Flight.Event) : (s.own i ev).Sound := by
  cases h : s.flights[i]? with
  | none => rwa [own_of_none h]
  | some f =>
    obtain ⟨hissued, hdue, hcancelled⟩ := own_world hs h ev
    constructor
    case due => exact hdue.trans hs.due
    case tidy =>
      intro t ht
      rw [hissued]
      rcases (hcancelled t).mp ht with ht | ⟨rfl, -⟩
      · exact hs.tidy t ht
      · exact hs.issued _ (List.mem_of_getElem? (signals_getElem? h))
    case issued =>
      rw [hissued, signals_own]
      exact hs.issued
    case nodup =>
      rw [signals_own]
      exact hs.nodup
    case context =>
      intro g hg k hk
      rw [own_of_some h] at hg
      rcases List.mem_or_eq_of_mem_set hg with hg | rfl
      · exact hs.context g hg k hk
      · exact hs.context f (List.mem_of_getElem? h) k (Flight.react_call hk)

lemma own_moves (hs : s.Sound) (i : ℕ) (ev : Flight.Event) :
    s.Moves (.own i ev) (s.own i ev) := by
  cases h : s.flights[i]? with
  | none =>
    rw [own_of_none h]
    refine ⟨List.prefix_rfl, fun j => ?_, fun j => ?_⟩
    · exact (or_iff_left (not_does_own h)).symm
    · exact (or_iff_left (not_or.mpr ⟨not_does_own h, not_does_own h⟩)).symm
  | some f =>
    constructor
    case signals => exact (signals_own s i ev).symm ▸ List.prefix_rfl
    case ended =>
      intro j
      rw [Leaves, does_own h, own_of_some h]
      simp only [Over]
      by_cases hj : j = i
      · subst hj
        have hlt := (List.getElem?_eq_some_iff.mp h).1
        simp only [List.getElem?_set_self hlt, h, Option.some.injEq, exists_eq_left', true_and]
        exact f.react_over (f.exchange s.world) ev
      · rw [List.getElem?_set_ne (Ne.symm hj), or_iff_left fun hl => hj hl.1]
    case revoked =>
      intro j
      have hi := signals_getElem? h
      obtain ⟨-, -, hcancelled⟩ := own_world hs h ev
      rw [Leaves, Cancels, does_own h, does_own h, ← and_or_left]
      simp only [Revoked, signals_own, hcancelled]
      constructor
      · rintro ⟨σ, hσ, hc | ⟨rfl, hd⟩⟩
        · exact .inl ⟨σ, hσ, hc⟩
        · obtain ⟨hlt, -⟩ := List.getElem?_eq_some_iff.mp hσ
          exact .inr ⟨(List.getElem?_inj hlt hs.nodup).mp (hσ.trans hi.symm), hd⟩
      · rintro (⟨σ, hσ, hc⟩ | ⟨rfl, hd⟩)
        · exact ⟨σ, hσ, .inl hc⟩
        · exact ⟨f.signal, hi, .inr ⟨rfl, hd⟩⟩

lemma not_does (hm : ∀ i ev, m ≠ .own i ev) : ¬ s.Does P m j := by
  rintro ⟨f, ev, rfl, -⟩
  exact hm _ _ rfl

lemma moves_of_same {w : World} (hm : ∀ i ev, m ≠ .own i ev) (hc : w.cancelled = s.world.cancelled) :
    s.Moves m { s with world := w } := by
  refine ⟨List.prefix_rfl, fun i => (or_iff_left (not_does hm)).symm, fun i => ?_⟩
  rw [Cancels, Leaves, or_iff_left (not_or.mpr ⟨not_does hm, not_does hm⟩)]
  simp only [Revoked, hc]
  exact Iff.rfl

lemma Sound.of_same {w : World} (hs : s.Sound) (hi : s.world.issued ≤ w.issued)
    (hd : w.due = s.world.due) (hc : w.cancelled = s.world.cancelled) :
    Sound { s with world := w } where
  due := hd.trans hs.due
  tidy t ht := Nat.lt_of_lt_of_le (hs.tidy t (hc ▸ ht)) hi
  issued t ht := Nat.lt_of_lt_of_le (hs.issued t ht) hi
  nodup := hs.nodup
  context := hs.context

lemma board_spec (d : Dispatcher) (route : Route) (r : Request) (v : Json) (σ : Signal) (w : World) :
    (Exchange.start w).Still (board d route r v σ w).2 ∧ ¬ (board d route r v σ w).1.IsOver ∧
    ∀ k, (board d route r v σ w).1.call? = some k → k.context.signal = σ := by
  simp only [board]
  cases w.after? d.timeoutSecs with
  | none => simp [Stage.IsOver, Stage.call?, Exchange.Still.refl]
  | some deadline =>
    simp only
    cases w.done? (d.context route r σ deadline) with
    | some e => simp [Stage.IsOver, Stage.call?, Exchange.Still.refl]
    | none =>
      refine ⟨Tracer.enter_still _ _ _, by simp [Stage.IsOver], fun k hk => ?_⟩
      obtain rfl := Option.some.inj hk
      exact (Trace.extract_keeps (d.context route r σ deadline) _).1

lemma getElem?_snoc {α : Type} {l : List α} {a b : α} :
    (l ++ [a])[i]? = some b ↔ l[i]? = some b ∨ i = l.length ∧ b = a := by
  rcases Nat.lt_trichotomy i l.length with h | rfl | h
  · rw [List.getElem?_append_left h]
    exact (or_iff_left fun hb => Nat.ne_of_lt h hb.1).symm
  · simp [eq_comm]
  · have hl : (l ++ [a])[i]? = none := List.getElem?_eq_none (by rwa [List.length_append])
    rw [hl, List.getElem?_eq_none (Nat.le_of_lt h)]
    simp [Nat.ne_of_gt h]

structure Joins (s : Flights) (f : Flight) (w : World) : Prop where
  issued : w.issued = s.world.issued + 1
  due : w.due = s.world.due
  cancelled : w.cancelled = s.world.cancelled
  signal : f.signal = ⟨s.world.issued⟩
  going : ¬ f.stage.IsOver
  context : ∀ k, f.stage.call? = some k → k.context.signal = f.signal

lemma Joins.sound {w : World} (h : s.Joins f w) (hs : s.Sound) : Sound ⟨w, s.flights ++ [f]⟩ := by
  have hsig : signals ⟨w, s.flights ++ [f]⟩ = s.signals ++ [f.signal] := List.map_append
  constructor
  case due => exact h.due.trans hs.due
  case tidy =>
    intro t ht
    have ht : t ∈ s.world.cancelled := h.cancelled ▸ ht
    exact h.issued ▸ Nat.lt_succ_of_lt (hs.tidy t ht)
  case issued =>
    intro t ht
    rw [hsig, List.mem_append, List.mem_singleton, h.signal] at ht
    rw [h.issued]
    rcases ht with ht | rfl
    · exact Nat.lt_succ_of_lt (hs.issued t ht)
    · exact Nat.lt_succ_self _
  case nodup =>
    rw [hsig, h.signal]
    refine List.nodup_append.mpr ⟨hs.nodup, List.pairwise_singleton _ _, ?_⟩
    rintro t ht _ hm rfl
    obtain rfl := List.mem_singleton.mp hm
    exact Nat.lt_irrefl _ (hs.issued _ ht)
  case context =>
    intro g hg k hk
    rcases List.mem_append.mp hg with hg | hg
    · exact hs.context g hg k hk
    · obtain rfl := List.mem_singleton.mp hg
      exact h.context k hk

lemma Joins.moves {w : World} (h : s.Joins f w) (hs : s.Sound) (hm : ∀ i ev, m ≠ .own i ev) :
    s.Moves m ⟨w, s.flights ++ [f]⟩ := by
  have hsig : signals ⟨w, s.flights ++ [f]⟩ = s.signals ++ [f.signal] := List.map_append
  refine ⟨hsig ▸ List.prefix_append _ _, fun i => ?_, fun i => ?_⟩
  · rw [Leaves, or_iff_left (not_does hm)]
    simp only [Over, getElem?_snoc, or_and_right, exists_or]
    refine or_iff_left ?_
    rintro ⟨g, ⟨-, rfl⟩, ho⟩
    exact h.going ho
  · rw [Cancels, Leaves, or_iff_left (not_or.mpr ⟨not_does hm, not_does hm⟩)]
    simp only [Revoked, hsig, h.cancelled, getElem?_snoc, or_and_right, exists_or]
    refine or_iff_left ?_
    -- Nobody can have cancelled a signal that was not issued.
    rintro ⟨σ, ⟨-, rfl⟩, hc⟩
    exact Nat.lt_irrefl _ (h.signal ▸ hs.tidy _ hc)

lemma arrive_error {e : ServiceError} {d : Dispatcher} {route : Route} {r : Request}
    (h : Dispatcher.input route.shape d.maxBodyBytes r = .error e) :
    s.arrive d route r = { s with world := s.world.after (d.failureEffects r e) } := by
  simp only [arrive, h, Dispatcher.reject_snd]

lemma arrive_ok {v : Json} {d : Dispatcher} {route : Route} {r : Request}
    (h : Dispatcher.input route.shape d.maxBodyBytes r = .ok v) :
    ∃ f w, s.Joins f w ∧ s.arrive d route r = ⟨w, s.flights ++ [f]⟩ := by
  obtain ⟨hstill, hover, hcontext⟩ := board_spec d route r v s.world.issue.1 s.world.issue.2
  simp only [arrive, h]
  exact ⟨_, _, ⟨hstill.issued, hstill.due, hstill.cancelled, rfl, hover, hcontext⟩, rfl⟩

lemma move_sound (hs : s.Sound) (m : Move) : (s.move m).Sound := by
  cases m with
  | own i ev => exact own_sound hs i ev
  | elsewhere f quiet =>
    have hq := quiet s.world hs.due
    exact hs.of_same hq.issued hq.due hq.cancelled
  | arrive d route r =>
    rw [move]
    cases h : Dispatcher.input route.shape d.maxBodyBytes r with
    | error e =>
      rw [arrive_error h]
      exact hs.of_same (Nat.le_refl _) rfl rfl
    | ok v =>
      obtain ⟨f, w, hj, ha⟩ := arrive_ok (s := s) h
      rw [ha]
      exact hj.sound hs

lemma move_moves (hs : s.Sound) (m : Move) : s.Moves m (s.move m) := by
  cases m with
  | own i ev => exact own_moves hs i ev
  | elsewhere f quiet =>
    exact moves_of_same (fun _ _ => Move.noConfusion) (quiet s.world hs.due).cancelled
  | arrive d route r =>
    have hm : ∀ i ev, Move.arrive d route r ≠ .own i ev := fun _ _ => Move.noConfusion
    rw [move]
    cases h : Dispatcher.input route.shape d.maxBodyBytes r with
    | error e =>
      rw [arrive_error h]
      exact moves_of_same hm rfl
    | ok v =>
      obtain ⟨f, w, hj, ha⟩ := arrive_ok (s := s) h
      rw [ha]
      exact hj.moves hs hm

lemma after_cons (s : Flights) (m : Move) (ms : List Move) :
    s.after (m :: ms) = (s.move m).after ms := rfl

lemma after_snoc (s : Flights) (ms : List Move) (m : Move) :
    s.after (ms ++ [m]) = (s.after ms).move m := by
  rw [after, List.foldl_append]
  rfl

lemma after_append (s : Flights) (ms ns : List Move) :
    s.after (ms ++ ns) = (s.after ms).after ns := List.foldl_append

lemma after_sound (hs : s.Sound) (ms : List Move) : (s.after ms).Sound := by
  induction ms using List.reverseRecOn with
  | nil => exact hs
  | append_singleton ms m ih =>
    rw [after_snoc]
    exact move_sound ih m

lemma signals_after (hs : s.Sound) (ms : List Move) : s.signals <+: (s.after ms).signals := by
  induction ms using List.reverseRecOn with
  | nil => exact List.prefix_rfl
  | append_singleton ms m ih =>
    rw [after_snoc]
    exact ih.trans (move_moves (after_sound hs ms) m).signals

lemma Over.after (hs : s.Sound) (h : s.Over i) (ms : List Move) : (s.after ms).Over i := by
  induction ms using List.reverseRecOn with
  | nil => exact h
  | append_singleton ms m ih =>
    rw [after_snoc]
    exact ((move_moves (after_sound hs ms) m).ended i).mpr (.inl ih)

lemma cancelled_snoc : s.Cancelled (ms ++ [m]) i ↔
    s.Cancelled ms i ∨ (s.after ms).Cancels m i := happened_snoc

lemma revoked_iff (epoch : ℕ) (sink : Metrics.Sink) (ms : List Move) (i : ℕ) :
    ((start epoch sink).after ms).Revoked i ↔
      ((start epoch sink).after ms).Over i ∨ (start epoch sink).Cancelled ms i := by
  -- From the end of the history: a last move adds to both sides that the request is left or cancelled.
  induction ms using List.reverseRecOn with
  | nil =>
    refine iff_of_false ?_ (not_or.mpr ⟨?_, not_happened_nil⟩)
    · rintro ⟨σ, -, h⟩
      exact absurd h List.not_mem_nil
    · rintro ⟨f, h, -⟩
      exact absurd h (by simp [Flights.after, start])
  | append_singleton ms m ih =>
    have hm := move_moves (after_sound (start_sound epoch sink) ms) m
    rw [after_snoc, hm.revoked, hm.ended, ih, cancelled_snoc]
    tauto

end Flights

end RpcServer.Http
