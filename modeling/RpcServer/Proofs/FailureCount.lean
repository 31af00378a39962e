import Mathlib.Algebra.BigOperators.Group.List.Basic
import RpcServer.Proofs.Meters
import RpcServer.Proofs.Recovery

/-! Failures that the metrics count on the paths of requests. A call under observation adds none,
and a dispatch adds one where it ends with an error. -/

namespace RpcServer

open Metrics

namespace Metrics

def pathReasons : List String := [notFound, methodNotAllowed, serverError]

def pathFailures (m path : String) (rs : List Recording) : ℕ :=
  (pathReasons.map fun reason => rs.count (.failure m path reason)).sum

def Store.failuresOf (st : Store) (m path : String) : ℕ :=
  (pathReasons.map (st.errorsOf m path)).sum

variable (m path : String)

lemma pathFailures_append (rs ss : List Recording) :
    pathFailures m path (rs ++ ss) = pathFailures m path rs + pathFailures m path ss := by
  simp only [pathFailures, List.count_append, List.sum_map_add]

variable {m path} in
lemma pathFailures_eq_zero {rs : List Recording}
    (h : ∀ reason ∈ pathReasons, .failure m path reason ∉ rs) : pathFailures m path rs = 0 := by
  rw [pathFailures, List.sum_eq_zero_iff_forall_eq_nat]
  intro n hn
  obtain ⟨reason, hr, rfl⟩ := List.mem_map.mp hn
  exact List.count_eq_zero.mpr (h reason hr)

lemma pathFailures_singleton {reason : String} (h : reason ∈ pathReasons) :
    pathFailures m path [.failure m path reason] = 1 := by
  have hc : ∀ x, [Recording.failure m path reason].count (.failure m path x) =
      if reason = x then 1 else 0 := by
    intro x
    simp [List.count_singleton]
  have hd : ∀ x ∈ pathReasons, (pathReasons.map fun y => if x = y then 1 else 0).sum = 1 := by
    decide
  simp only [pathFailures, hc]
  exact hd reason h

lemma Store.errorsOf_record (st : Store) (reason : String) (r : Recording) :
    (st.record r).errorsOf m path reason =
      st.errorsOf m path reason + if r = .failure m path reason then 1 else 0 := by
  cases r with
  | failure n o t =>
    have hl : [m, path, reason] = [n, o, t] ↔
        Recording.failure n o t = .failure m path reason := by
      simp only [List.cons.injEq, and_true, Recording.failure.injEq, eq_comm]
    simp only [record, errorsOf, Dict.getD_update, hl]
    split
    · rename_i h
      rw [hl.mpr h]
    · rfl
  | _ => rfl

lemma Store.failuresOf_foldl (rs : List Recording) (st : Store) :
    (rs.foldl Store.record st).failuresOf m path =
      st.failuresOf m path + pathFailures m path rs := by
  have he : (rs.foldl Store.record st).errorsOf m path = fun reason =>
      st.errorsOf m path reason + rs.count (.failure m path reason) := by
    funext reason
    induction rs generalizing st with
    | nil => rfl
    | cons r rs ih =>
      rw [List.foldl_cons, ih, errorsOf_record, List.count_cons]
      simp only [beq_iff_eq]
      omega
  simp only [failuresOf, pathFailures, he, List.sum_map_add]

end Metrics

namespace Effect

def failures (m path : String) (es : List Effect) : ℕ :=
  pathFailures m path (es.filterMap recording?)

variable (m path : String)

@[simp] lemma failures_logged (e : Log.Event) (es : List Effect) :
    failures m path (.logged e :: es) = failures m path es := rfl

@[simp] lemma failures_append (es fs : List Effect) :
    failures m path (es ++ fs) = failures m path es + failures m path fs := by
  rw [failures, List.filterMap_append, pathFailures_append]
  rfl

lemma failures_of_handler {c : Context} {s : Option Log.Span} {es : List Effect}
    (h : ∀ e ∈ es, e.OfHandler c s) : failures m path es = 0 := by
  rw [failures, recordings_of_handler h]
  rfl

end Effect

def World.Counts (m path : String) (n : ℕ) (w v : World) : Prop :=
  ∃ es, v.trace = w.trace ++ es ∧
    v.sink = (es.filterMap Effect.recording?).foldl Sink.record w.sink ∧
    Effect.failures m path es = n

section Counting

variable {m path : String} {u v w : World} {a b : ℕ}

lemma World.Counts.refl (m path : String) (w : World) : Counts m path 0 w w :=
  ⟨[], (List.append_nil _).symm, rfl, rfl⟩

lemma World.Counts.trans (h : Counts m path a u v) (k : Counts m path b v w) :
    Counts m path (a + b) u w := by
  obtain ⟨es, ht, hs, rfl⟩ := h
  obtain ⟨fs, kt, ks, rfl⟩ := k
  refine ⟨es ++ fs, ?_, ?_, Effect.failures_append m path es fs⟩
  · rw [kt, ht, List.append_assoc]
  · rw [ks, hs, List.filterMap_append, List.foldl_append]

lemma World.Counts.since (h : Counts m path a v w) :
    Effect.failures m path (w.trace.drop v.trace.length) = a := by
  obtain ⟨es, ht, -, rfl⟩ := h
  rw [ht, List.drop_left]

lemma World.Counts.store (h : Counts m path a v w) {st : Store} (hs : v.sink = .memory st) :
    ∃ st', w.sink = .memory st' ∧ st'.failuresOf m path = st.failuresOf m path + a := by
  obtain ⟨es, -, hw, rfl⟩ := h
  rw [hs, Sink.record_memory] at hw
  exact ⟨_, hw, Store.failuresOf_foldl m path _ st⟩

lemma World.after_counts (w : World) {es : List Effect} (h : Effect.failures m path es = a) :
    Counts m path a w (w.after es) := ⟨es, rfl, rfl, h⟩

lemma Exchange.Emits.counts {x y : Exchange} {es : List Effect} (he : x.Emits es y)
    (h : Effect.failures m path es = a) : World.Counts m path a x.world y.world :=
  ⟨es, he.trace, he.sink, h⟩

end Counting

namespace Tracer

variable (tr : Tracer) {m path : String}

lemma measured_failures {rs : List Recording}
    (h : ∀ reason ∈ pathReasons, .failure m path reason ∉ rs) :
    Effect.failures m path (tr.measured rs) = 0 := by
  simp only [measured]
  split
  · rw [Effect.failures, Effect.recordings_recorded]
    exact pathFailures_eq_zero h
  · rfl

lemma annotations_failures (i : Trace.Identity) (message : Bool) :
    Effect.failures m path (annotations i message) = 0 := by
  cases message <;> rfl

lemma opening_failures (k : Call) (request : Payload) (s : Option Log.Span) :
    Effect.failures m path (tr.opening k request s) = 0 := by
  rw [opening, Effect.failures_logged]
  apply measured_failures
  intro reason _
  simp

/-- The failure that a call counts for its operation has a reason of its own. -/
lemma closing_failures (k : Call) (y : Exchange) (h : Halt) :
    Effect.failures m path (tr.closing k y h) = 0 := by
  have hh : handlerError ∉ pathReasons := by decide
  cases h with
  | returned result =>
    cases result with
    | ok p =>
      rw [closing, Effect.failures_logged, Effect.failures_append, annotations_failures,
        Nat.zero_add]
      apply measured_failures
      intro reason _
      simp
    | error e =>
      rw [closing, Effect.failures_logged, Effect.failures_append, annotations_failures,
        Nat.zero_add]
      apply measured_failures
      intro reason hr
      have hne : reason ≠ handlerError := fun he => hh (he ▸ hr)
      simp [hne]
  | panicked | abandoned =>
    rw [closing, Effect.failures_append, annotations_failures]
    apply measured_failures
    intro reason _
    simp

end Tracer

namespace Http.Dispatcher

variable {d : Dispatcher} {limit : Instant} {route : Route} {r : Request} {w : World}
  {m path : String} {h : Halt} {z : Exchange}

lemma ended_counts (he : d.ended? limit route r w = some (h, z)) :
    World.Counts m path 0 w z.world := by
  cases hs : d.started? route r w with
  | none =>
    rw [ended_of_not_started hs] at he
    obtain ⟨e, -, hz⟩ := Option.map_eq_some_iff.mp he
    rw [← (Prod.mk.inj hz).2]
    exact World.Counts.refl m path w
  | some start =>
    obtain ⟨k, p, x⟩ := start
    have hk : k.identity.Legal := started_identity hs ▸ Trace.Identity.ofSpan_legal _
    obtain ⟨v, deadline, -, -, -, -, -, hx⟩ := started_of hs
    obtain ⟨own, ho⟩ := Program.run_handled k.context limit
      (Operation.service route.handler k.context p) x
    -- neither what is measured around the handler nor the handler counts anything on a path
    have hopen : World.Counts m path 0 w x.world := by
      rw [hx]
      exact (Tracer.enter_emits k p (.start w.issue.2)).counts (d.tracer.opening_failures k p none)
    have hown := ho.emits.counts (Effect.failures_of_handler m path ho.own)
    rw [ended_of_started hs limit, Option.some.injEq, Prod.mk.injEq] at he
    rw [← he.2]
    exact (hopen.trans hown).trans
      ((Tracer.finish_emits hk _ _).counts (d.tracer.closing_failures k _ _))

lemma encodingEffects_failures (e : Except Panic (Reply.Encoded × List Log.Event)) :
    Effect.failures m path (encodingEffects e) = 0 := by
  cases e with
  | ok e =>
    rw [encodingEffects]
    induction e.2 with
    | nil => rfl
    | cons event events ih => exact ih
  | error p => rfl

lemma failureEffects_failures (hm : d.tracer.measures = true) (e : ServiceError) :
    Effect.failures r.method r.uri.path (d.failureEffects r e) = 1 := by
  rw [failureEffects, Effect.failures_append, encodingEffects_failures, Tracer.measured, if_pos hm,
    Effect.failures, Effect.recordings_recorded, pathFailures_singleton _ _ (by decide)]

lemma reject_counts (hm : d.tracer.measures = true) (e : ServiceError) :
    World.Counts r.method r.uri.path 1 w (d.reject r e w).2 := by
  rw [reject_snd]
  exact w.after_counts (failureEffects_failures hm e)

lemma dispatch_counts (he : d.ended? limit route r w = some (h, z)) {n : ℕ}
    (hn : Effect.failures r.method r.uri.path (d.answerEffects r h) = n) :
    World.Counts r.method r.uri.path n w (d.dispatch limit route r w).2 := by
  rw [dispatch_of_ended he]
  have hc := (ended_counts he).trans (z.world.after_counts hn)
  rw [Nat.zero_add] at hc
  exact hc

end Http.Dispatcher

end RpcServer
