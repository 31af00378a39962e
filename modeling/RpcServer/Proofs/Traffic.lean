import RpcServer.Proofs.Clock
import RpcServer.Proofs.Observation

/-! Many calls at a time. A call runs to where its handler waits, and there the others have their
turns; a call that is served alone is one of the schedules. -/

namespace RpcServer

namespace Program

inductive Pause where
  | ended (h : Halt)
  | asleep (t : Instant) (next : Program)
  | awaiting (next : ServiceError → Program)
  | hung

def advance (c : Context) : Program → Exchange → Pause × Exchange
  | .reply p, x => (.ended (.returned (.ok p)), x)
  | .fail e, x => (.ended (.returned (.error e)), x)
  | .panic p, x => (.ended (.panicked p), x)
  | .act a next, x => advance c next (perform c x a)
  | .look next, x => advance c (next (view c x)) x
  | .sleep ms next, x => (.asleep (x.world.now + ms) next, x)
  | .awaitDone next _, x => (.awaiting next, x)
  | .hang, x => (.hung, x)

namespace Pause

def isEnded : Pause → Bool
  | .ended _ => true
  | _ => false

def woken? (w : World) (c : Context) (e : ServiceError) : Pause → Option Program
  | .asleep t next => if t ≤ w.now then some next else none
  | .awaiting next =>
    match w.resolution? c with
    | some r => if r.time ≤ w.now ∧ e ∈ r.causes then some (next e) else none
    | none => none
  | .ended _ | .hung => none

end Pause

lemma advance_handled (c : Context) (p : Program) (x : Exchange) :
    ∃ own, x.Handled c own (p.advance c x).2 := by
  induction p generalizing x with
  | reply | fail | panic | sleep | awaitDone | hang => exact ⟨[], Exchange.Handled.refl c x⟩
  | act a next ih =>
    obtain ⟨es, he⟩ := perform_handled c x a
    obtain ⟨fs, hf⟩ := ih (perform c x a)
    exact ⟨es ++ fs, he.trans hf⟩
  | look next ih => exact ih (view c x) x

lemma run_awaitDone (c : Context) (limit : Instant) (next : ServiceError → Program)
    (favoured : ServiceError) (x : Exchange) :
    (Program.awaitDone next favoured).run c limit x =
        (.abandoned, { x with world := x.world.moveTo limit }) ∨
      ∃ u e, (Pause.awaiting next).woken? (x.world.moveTo u) c e = some (next e) ∧
        (Program.awaitDone next favoured).run c limit x =
          (next e).run c limit { x with world := x.world.moveTo u } := by
  cases hq : x.world.resolution? c with
  | none => exact .inl (by simp only [run, World.awaitDone, hq])
  | some r =>
    by_cases hr : r.time ≤ limit
    · obtain ⟨e, he, ht⟩ := World.exists_told hq favoured
      refine .inr ⟨r.time, e, ?_, ?_⟩
      · simp only [Pause.woken?, World.resolution?_moveTo hq]
        exact if_pos ⟨x.world.le_moveTo_now r.time, he⟩
      · simp only [run, World.awaitDone, hq, hr, ↓reduceIte, ht]
    · exact .inl (by simp only [run, World.awaitDone, hq, hr, ↓reduceIte])

end Program

structure Ticket where
  tracer : Tracer
  context : Context
  request : Payload
  entered : Instant
  live : Bool
  reply : ReplyHeaders
  span : Option Log.Span
  pause : Program.Pause

namespace Ticket

open Program

def transport? (t : Ticket) : Option Transport := if t.live then t.context.transport else none

def call? (t : Ticket) : Option Tracer.Call :=
  t.transport?.map fun u => .start t.context u t.entered

def handlerContext (t : Ticket) : Context :=
  match t.call? with
  | some k => k.context
  | none => t.context

def exchange (t : Ticket) (w : World) : Exchange := ⟨w, t.reply, t.span⟩

def keep (t : Ticket) (p : Pause) (x : Exchange) : Ticket :=
  { t with reply := x.reply, span := x.span, pause := p }

def begin (t : Ticket) (x : Exchange) : Exchange :=
  match t.call? with
  | some k => t.tracer.enter k t.request x
  | none => x.log Tracer.missingTransport

def finish (t : Ticket) (h : Halt) (x : Exchange) : Exchange :=
  match t.call? with
  | some k => t.tracer.finish k h x
  | none => x

def stop (t : Ticket) (h : Halt) (x : Exchange) : Ticket × World :=
  (t.keep (.ended h) (t.finish h x), (t.finish h x).world)

def turn (t : Ticket) (p : Program) (x : Exchange) : Ticket × World :=
  match p.advance t.handlerContext x with
  | (.ended h, y) => t.stop h y
  | (q, y) => (t.keep q y, y.world)

end Ticket

structure Traffic where
  world : World
  calls : List Ticket

namespace Traffic

def start (epoch : Nat) : Traffic := ⟨.start epoch (.memory .empty), []⟩

def enter (s : Traffic) (tr : Tracer) (inner : Context → Payload → Program) (c : Context)
    (request : Payload) : Traffic :=
  match s.world.done? c with
  | some e =>
    let t : Ticket :=
      ⟨tr, c, request, s.world.now, false, .empty, none, .ended (.returned (.error e))⟩
    ⟨s.world, s.calls ++ [t]⟩
  | none =>
    let t : Ticket := ⟨tr, c, request, s.world.now, true, .empty, none, .hung⟩
    let r := t.turn (inner t.handlerContext request) (t.begin (.start s.world))
    ⟨r.2, s.calls ++ [r.1]⟩

def resume (s : Traffic) (i : Nat) (e : ServiceError) : Traffic :=
  match s.calls[i]? with
  | some t =>
    match t.pause.woken? s.world t.handlerContext e with
    | some p =>
      let r := t.turn p (t.exchange s.world)
      ⟨r.2, s.calls.set i r.1⟩
    | none => s
  | none => s

def drop (s : Traffic) (i : Nat) : Traffic :=
  match s.calls[i]? with
  | some t =>
    if t.pause.isEnded then s
    else
      let r := t.stop .abandoned (t.exchange s.world)
      ⟨r.2, s.calls.set i r.1⟩
  | none => s

inductive Move where
  | enter (tr : Tracer) (inner : Context → Payload → Program) (c : Context) (request : Payload)
  | resume (i : Nat) (e : ServiceError)
  | drop (i : Nat)
  | elsewhere (f : World → World) (unmeasured : ∀ w, (f w).sink = w.sink)

def move (s : Traffic) : Move → Traffic
  | .enter tr inner c request => s.enter tr inner c request
  | .resume i e => s.resume i e
  | .drop i => s.drop i
  | .elsewhere f _ => { s with world := f s.world }

def after (s : Traffic) (moves : List Move) : Traffic := moves.foldl move s

@[simp] lemma after_nil (s : Traffic) : s.after [] = s := rfl

@[simp] lemma after_cons (s : Traffic) (m : Move) (ms : List Move) :
    s.after (m :: ms) = (s.move m).after ms := rfl

def waitUntil (t : Instant) : Move := .elsewhere (·.moveTo t) fun w => w.moveTo_sink t

variable {t : Ticket} {q : Program.Pause} {p : Program} {x : Exchange} {limit : Instant}

lemma resume_last (calls : List Ticket) {u : Instant} {e : ServiceError}
    (h : q.woken? (x.world.moveTo u) t.handlerContext e = some p) :
    let r := t.turn p { x with world := x.world.moveTo u }
    after ⟨x.world, calls ++ [t.keep q x]⟩ [waitUntil u, .resume calls.length e] =
      ⟨r.2, calls ++ [r.1]⟩ := by
  have hk : (t.keep q x).pause.woken? (x.world.moveTo u) (t.keep q x).handlerContext e =
      some p := h
  simp only [after_cons, after_nil, move, waitUntil, resume, List.getElem?_concat_length, hk]
  rw [List.set_append_right _ _ (Nat.le_refl _), Nat.sub_self, List.set_cons_zero]
  rfl

lemma drop_last (t : Ticket) (x : Exchange) (calls : List Ticket) (u : Instant)
    (h : q.isEnded = false) :
    let r := t.stop .abandoned { x with world := x.world.moveTo u }
    after ⟨x.world, calls ++ [t.keep q x]⟩ [waitUntil u, .drop calls.length] =
      ⟨r.2, calls ++ [r.1]⟩ := by
  have hk : (t.keep q x).pause.isEnded = false := h
  simp only [after_cons, after_nil, move, waitUntil, drop, List.getElem?_concat_length, hk,
    Bool.false_eq_true, ↓reduceIte]
  rw [List.set_append_right _ _ (Nat.le_refl _), Nat.sub_self, List.set_cons_zero]
  rfl

lemma turn_schedule (t : Ticket) (calls : List Ticket) (limit : Instant) (p : Program)
    (x : Exchange) :
    let r := t.turn p x
    let run := p.run t.handlerContext limit x
    let z := t.stop run.1 run.2
    ∃ moves, after ⟨r.2, calls ++ [r.1]⟩ moves = ⟨z.2, calls ++ [z.1]⟩ := by
  -- each wait takes two moves: the clock goes on, and then the call resumes or is dropped
  induction p generalizing x with
  | reply | fail | panic => exact ⟨[], rfl⟩
  | act a next ih => exact ih (Program.perform t.handlerContext x a)
  | look next ih => exact ih (Program.view t.handlerContext x) x
  | sleep ms next ih =>
    let u : Instant := x.world.now + ms
    by_cases hu : u ≤ limit
    · have hr : (Program.sleep ms next).run t.handlerContext limit x =
          next.run t.handlerContext limit { x with world := x.world.moveTo u } := if_pos hu
      have hw : (Program.Pause.asleep u next).woken? (x.world.moveTo u) t.handlerContext
          .cancelled = some next := if_pos (x.world.le_moveTo_now u)
      obtain ⟨moves, hm⟩ := ih { x with world := x.world.moveTo u }
      rw [← hr, ← resume_last calls hw] at hm
      exact ⟨waitUntil u :: .resume calls.length .cancelled :: moves, hm⟩
    · have hr : (Program.sleep ms next).run t.handlerContext limit x =
          (.abandoned, { x with world := x.world.moveTo limit }) := if_neg hu
      rw [hr]
      exact ⟨_, drop_last t x calls limit rfl⟩
  | awaitDone next favoured ih =>
    rcases Program.run_awaitDone t.handlerContext limit next favoured x with hr | ⟨u, e, hw, hr⟩
    · rw [hr]
      exact ⟨_, drop_last t x calls limit rfl⟩
    · obtain ⟨moves, hm⟩ := ih e { x with world := x.world.moveTo u }
      rw [← hr, ← resume_last calls hw] at hm
      exact ⟨waitUntil u :: .resume calls.length e :: moves, hm⟩
  | hang => exact ⟨_, drop_last t x calls limit rfl⟩

theorem serve_schedule (s : Traffic) (tr : Tracer) (limit : Instant)
    (inner : Context → Payload → Program) (c : Context) (request : Payload) :
    let served := tr.serve limit inner c request (.start s.world)
    ∃ moves t, s.after (.enter tr inner c request :: moves) =
        ⟨served.2.world, s.calls ++ [t]⟩ ∧
      t.pause = .ended served.1 ∧ t.reply = served.2.reply := by
  simp only [after_cons, move, enter]
  cases hd : s.world.done? c with
  | some e =>
    rw [Tracer.serve_done tr hd]
    exact ⟨[], _, rfl, rfl, rfl⟩
  | none =>
    let t : Ticket := ⟨tr, c, request, s.world.now, true, .empty, none, .hung⟩
    let run := (inner t.handlerContext request).run t.handlerContext limit
      (t.begin (.start s.world))
    have hs : tr.serve limit inner c request (.start s.world) =
        (run.1, t.finish run.1 run.2) := by
      have hd' : (Exchange.start s.world).world.done? c = none := hd
      cases ht : c.transport with
      | none =>
        have hc : t.call? = none := by simp [t, Ticket.call?, Ticket.transport?, ht]
        simp only [run, Tracer.serve, hd', ht, Ticket.finish, Ticket.begin, Ticket.handlerContext,
          hc]
        rfl
      | some u =>
        have hc : t.call? = some (.start c u s.world.now) := by
          simp [t, Ticket.call?, Ticket.transport?, ht]
        rw [Tracer.serve_eq hd' ht]
        simp only [run, Ticket.finish, Ticket.begin, Ticket.handlerContext, hc]
        rfl
    rw [hs]
    obtain ⟨moves, hm⟩ := turn_schedule t s.calls limit (inner t.handlerContext request)
      (t.begin (.start s.world))
    exact ⟨moves, _, hm, rfl, rfl⟩

end Traffic

end RpcServer
