import Mathlib.Tactic.Common
import RpcServer.Program

/-! What is done in an exchange explains the exchange: the trace grows by it, and the metrics and the
reply headers are what it makes of those that were there. -/

namespace RpcServer

open Metrics

namespace Effect

def write? : Effect → Option HeaderWrite
  | .wrote w => some w
  | _ => none

/-- What a handler may do in a context: it measures nothing, and its log events are in the span. -/
def OfHandler (c : Context) (s : Option Log.Span) : Effect → Prop
  | .logged e => e.span = s
  | .recorded _ => False
  | .wrote _ => True
  | .invoked d _ => d = c

lemma recordings_of_handler {c : Context} {s : Option Log.Span} {es : List Effect}
    (h : ∀ e ∈ es, e.OfHandler c s) : es.filterMap recording? = [] := by
  rw [List.filterMap_eq_nil_iff]
  intro e he
  cases e with
  | recorded r => exact (h _ he).elim
  | logged | wrote | invoked => rfl

@[simp] lemma recordings_recorded (rs : List Recording) :
    (rs.map recorded).filterMap recording? = rs := by
  induction rs with
  | nil => rfl
  | cons r rs ih => simpa [recording?] using ih

@[simp] lemma writes_recorded (rs : List Recording) :
    (rs.map recorded).filterMap write? = [] := by
  simp [write?]

end Effect

namespace Exchange

structure Emits (x : Exchange) (es : List Effect) (y : Exchange) : Prop where
  trace : y.world.trace = x.world.trace ++ es
  sink : y.world.sink = (es.filterMap Effect.recording?).foldl Sink.record x.world.sink
  reply : y.reply = (es.filterMap Effect.write?).foldl ReplyHeaders.write x.reply

variable {x y z : Exchange}

lemma Emits.refl (x : Exchange) : x.Emits [] x := ⟨by simp, rfl, rfl⟩

lemma Emits.trans {es fs : List Effect} (h : x.Emits es y) (k : y.Emits fs z) :
    x.Emits (es ++ fs) z where
  trace := by rw [k.trace, h.trace, List.append_assoc]
  sink := by rw [k.sink, h.sink, List.filterMap_append, List.foldl_append]
  reply := by rw [k.reply, h.reply, List.filterMap_append, List.foldl_append]

lemma Emits.unique {es fs : List Effect} (h : x.Emits es y) (k : x.Emits fs y) : es = fs :=
  List.append_cancel_left (h.trace.symm.trans k.trace)

def writesSince (x y : Exchange) : List HeaderWrite :=
  (y.world.trace.drop x.world.trace.length).filterMap Effect.write?

lemma Emits.writesSince {es : List Effect} (h : x.Emits es y) :
    x.writesSince y = es.filterMap Effect.write? := by
  rw [Exchange.writesSince, h.trace, List.drop_left]

@[simp] lemma write_span (x : Exchange) (w : HeaderWrite) : (x.write w).span = x.span := by
  simp only [write]
  split <;> rfl

lemma log_emits (x : Exchange) (e : Log.Event) :
    x.Emits [.logged { e with span := x.span }] (x.log e) := ⟨rfl, rfl, rfl⟩

lemma record_emits (x : Exchange) (r : Recording) : x.Emits [.recorded r] (x.record r) :=
  ⟨rfl, rfl, rfl⟩

lemma records_emits (rs : List Recording) (x : Exchange) :
    x.Emits (rs.map .recorded) (rs.foldl record x) := by
  induction rs generalizing x with
  | nil => exact Emits.refl x
  | cons r rs ih => exact (x.record_emits r).trans (ih (x.record r))

lemma write_emits {w : HeaderWrite} (h : ReplyHeaders.refusal? w = none) :
    x.Emits [.wrote w] (x.write w) := by
  have hw : x.write w =
      { x with reply := x.reply.write w, world := x.world.emit (.wrote w) } := by
    simp only [write, h]
  rw [hw]
  exact ⟨rfl, rfl, rfl⟩

lemma refused_emits {w : HeaderWrite} {r : ReplyHeaders.Refusal}
    (h : ReplyHeaders.refusal? w = some r) :
    x.Emits [.logged { refusalEvent r with span := x.span }] (x.write w) := by
  have hw : x.write w = x.log (refusalEvent r) := by simp only [write, h]
  rw [hw]
  exact x.log_emits _

structure Still (x y : Exchange) : Prop where
  epoch : y.world.epoch = x.world.epoch
  now : y.world.now = x.world.now
  issued : y.world.issued = x.world.issued
  cancelled : y.world.cancelled = x.world.cancelled
  due : y.world.due = x.world.due

lemma Still.refl (x : Exchange) : x.Still x := ⟨rfl, rfl, rfl, rfl, rfl⟩

lemma Still.trans (h : x.Still y) (k : y.Still z) : x.Still z :=
  ⟨k.epoch.trans h.epoch, k.now.trans h.now, k.issued.trans h.issued,
    k.cancelled.trans h.cancelled, k.due.trans h.due⟩

lemma log_still (x : Exchange) (e : Log.Event) : x.Still (x.log e) := ⟨rfl, rfl, rfl, rfl, rfl⟩

lemma write_still (x : Exchange) (w : HeaderWrite) : x.Still (x.write w) := by
  simp only [write]
  split
  · exact x.log_still _
  · exact ⟨rfl, rfl, rfl, rfl, rfl⟩

lemma records_still (rs : List Recording) (x : Exchange) : x.Still (rs.foldl record x) := by
  induction rs generalizing x with
  | nil => exact Still.refl x
  | cons r rs ih =>
    have hr : x.Still (x.record r) := ⟨rfl, rfl, rfl, rfl, rfl⟩
    exact hr.trans (ih (x.record r))

structure Handled (c : Context) (x : Exchange) (own : List Effect) (y : Exchange) : Prop where
  emits : x.Emits own y
  own : ∀ e ∈ own, e.OfHandler c x.span
  span : y.span = x.span

variable {c : Context}

lemma Handled.refl (c : Context) (x : Exchange) : x.Handled c [] x :=
  ⟨Emits.refl x, by simp, rfl⟩

lemma Handled.trans {es fs : List Effect} (h : x.Handled c es y) (k : y.Handled c fs z) :
    x.Handled c (es ++ fs) z where
  emits := h.emits.trans k.emits
  own e he := by
    rcases List.mem_append.mp he with he | he
    · exact h.own e he
    · exact h.span ▸ k.own e he
  span := k.span.trans h.span

lemma Handled.sink {es : List Effect} (h : x.Handled c es y) : y.world.sink = x.world.sink := by
  rw [h.emits.sink, Effect.recordings_of_handler h.own]
  rfl

lemma Handled.of_world (c : Context) {w : World} (ht : w.trace = x.world.trace)
    (hs : w.sink = x.world.sink) : x.Handled c [] { x with world := w } :=
  ⟨⟨by simpa using ht, hs, rfl⟩, by simp, rfl⟩

end Exchange

namespace World

@[simp] lemma moveTo_trace (w : World) (t : Instant) : (w.moveTo t).trace = w.trace := by
  simp only [moveTo]
  split <;> rfl

@[simp] lemma moveTo_sink (w : World) (t : Instant) : (w.moveTo t).sink = w.sink := by
  simp only [moveTo]
  split <;> rfl

lemma awaitDone_moves (w : World) (c : Context) (limit : Instant) (favoured : ServiceError) :
    ∃ t, (w.awaitDone c limit favoured).2 = w.moveTo t := by
  simp only [awaitDone]
  split
  · split
    · exact ⟨_, rfl⟩
    · exact ⟨_, rfl⟩
  · exact ⟨_, rfl⟩

end World

namespace Program

open Exchange

lemma moveTo_handled (c : Context) (x : Exchange) (t : Instant) :
    x.Handled c [] { x with world := x.world.moveTo t } :=
  Handled.of_world c (x.world.moveTo_trace t) (x.world.moveTo_sink t)

lemma perform_handled (c : Context) (x : Exchange) (a : Action) :
    ∃ own, x.Handled c own (perform c x a) := by
  cases a with
  | write w =>
    cases h : ReplyHeaders.refusal? w with
    | none => exact ⟨_, write_emits h, by simp [Effect.OfHandler], x.write_span w⟩
    | some r => exact ⟨_, refused_emits h, by simp [Effect.OfHandler], x.write_span w⟩
  | log e => exact ⟨_, x.log_emits e, by simp [Effect.OfHandler], rfl⟩
  | cancel => exact ⟨[], Handled.of_world c rfl rfl⟩
  | invoke p => exact ⟨[.invoked c p], ⟨rfl, rfl, rfl⟩, by simp [Effect.OfHandler], rfl⟩

lemma run_handled (c : Context) (limit : Instant) (p : Program) (x : Exchange) :
    ∃ own, x.Handled c own (p.run c limit x).2 := by
  induction p generalizing x with
  | reply | fail | panic => exact ⟨[], Handled.refl c x⟩
  | act a next ih =>
    obtain ⟨es, he⟩ := perform_handled c x a
    obtain ⟨fs, hf⟩ := ih (perform c x a)
    exact ⟨es ++ fs, he.trans hf⟩
  | look next ih => exact ih (view c x) x
  | sleep ms next ih =>
    simp only [run]
    split
    · obtain ⟨fs, hf⟩ := ih { x with world := x.world.moveTo (x.world.now + ms) }
      exact ⟨fs, (moveTo_handled c x _).trans hf⟩
    · exact ⟨[], moveTo_handled c x limit⟩
  | awaitDone next favoured ih =>
    obtain ⟨t, ht⟩ := x.world.awaitDone_moves c limit favoured
    simp only [run]
    cases hd : x.world.awaitDone c limit favoured with
    | mk e w =>
      have hw : x.Handled c [] { x with world := w } := by
        rw [hd] at ht
        subst ht
        exact moveTo_handled c x t
      cases e with
      | none => exact ⟨[], hw⟩
      | some e =>
        obtain ⟨fs, hf⟩ := ih e { x with world := w }
        exact ⟨fs, hw.trans hf⟩
  | hang => exact ⟨[], moveTo_handled c x limit⟩

end Program

end RpcServer
