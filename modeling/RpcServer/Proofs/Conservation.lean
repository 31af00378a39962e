import Mathlib.Algebra.BigOperators.Group.List.Basic
import Mathlib.Algebra.Group.Int.Defs
import RpcServer.Proofs.Meters
import RpcServer.Proofs.Traffic

/-! The metrics of a server account for its calls, whatever the order in which they go on: the gauge
for those that have not ended, the counters for those that have. -/

namespace RpcServer

open Metrics

def Payload.isEncodable (p : Payload) : Bool :=
  match p.wire? with
  | some (.ok _) => true
  | _ => false

lemma Log.wireSize?_isSome (p : Payload) : (wireSize? p).isSome = p.isEncodable := by
  rcases h : p.wire? with _ | (e | s) <;> simp [wireSize?, Payload.isEncodable, h]

def Transport.isAt (m op : String) (u : Transport) : Bool := m = u.method && op = u.operation

namespace Tracer

def kept (tr : Tracer) (rs : List Recording) : List Recording := if tr.measures then rs else []

def exitRecordings (t : Transport) (e : Elapsed) : Halt → List Recording
  | .returned r => resultRecordings t e r ++ [.leave t.operation]
  | .panicked _ | .abandoned => [.leave t.operation]

variable (tr : Tracer)

lemma measure_sink (rs : List Recording) (x : Exchange) :
    (tr.measure rs x).world.sink = (tr.kept rs).foldl Sink.record x.world.sink := by
  have hm : tr.measured rs = (tr.kept rs).map .recorded := by
    simp only [measured, kept]
    split <;> rfl
  rw [(measure_emits tr rs x).sink, hm, Effect.recordings_recorded]

lemma enter_sink (k : Call) (request : Payload) (x : Exchange) :
    (tr.enter k request x).world.sink =
      (tr.kept (entryRecordings k.transport request)).foldl Sink.record x.world.sink :=
  tr.measure_sink (entryRecordings k.transport request) (x.log (tr.received k.transport request))

lemma annotate_sink (i : Trace.Identity) (message : Bool) (x : Exchange) (hi : i.Legal) :
    (annotate i message x).world.sink = x.world.sink := by
  have ha : (annotations i message).filterMap Effect.recording? = [] := by
    cases message <;> rfl
  rw [(annotate_emits hi message x).sink, ha]
  rfl

lemma finish_sink {k : Call} (hk : k.identity.Legal) (h : Halt) (y : Exchange) :
    (tr.finish k h y).world.sink =
      (tr.kept (exitRecordings k.transport (elapsed k y) h)).foldl Sink.record y.world.sink := by
  cases h with
  | returned r =>
    have hk' : tr.kept (exitRecordings k.transport (elapsed k y) (.returned r)) =
        tr.kept (resultRecordings k.transport (elapsed k y) r) ++
          tr.kept [.leave k.transport.operation] := by
      simp only [kept, exitRecordings]
      split <;> rfl
    simp only [finish, complete, leave]
    rw [measure_sink, measure_sink, annotate_sink _ _ _ hk, hk', List.foldl_append]
    rfl
  | panicked | abandoned =>
    simp only [finish, abandon, leave]
    rw [annotate_sink _ _ _ hk, measure_sink]
    rfl

end Tracer

def Metrics.Sink.Gains (a : Sink) (gain : Meter → Int) (b : Sink) : Prop :=
  ∀ st, a = .memory st → ∃ st', b = .memory st' ∧ ∀ q : Meter, q.read st' = q.read st + gain q

namespace Metrics.Sink

lemma gains_records (rs : List Recording) (a : Sink) :
    a.Gains (·.total rs) (rs.foldl record a) := by
  rintro st rfl
  exact ⟨_, record_memory rs st, fun q => q.read_foldl rs st⟩

lemma Gains.trans {a b c : Sink} {f g : Meter → Int} (h : a.Gains f b) (k : b.Gains g c) :
    a.Gains (fun q => f q + g q) c := by
  intro st hst
  obtain ⟨st', hst', hf⟩ := h st hst
  obtain ⟨st'', hst'', hg⟩ := k st' hst'
  refine ⟨st'', hst'', ?_⟩
  intro q
  rw [hg q, hf q, Int.add_assoc]

lemma Gains.congr {a b : Sink} {f g : Meter → Int} (h : a.Gains f b) (hfg : ∀ q, f q = g q) :
    a.Gains g b := by
  have he : f = g := funext hfg
  exact he ▸ h

end Metrics.Sink

lemma Tracer.total_kept_exit (tr : Tracer) (q : Meter) (t : Transport) (e d : Elapsed) (h : Halt) :
    q.total (tr.kept (exitRecordings t e h)) = q.total (tr.kept (exitRecordings t d h)) := by
  simp only [kept]
  split
  · cases h with
    | returned r =>
      simp only [exitRecordings, resultRecordings, Meter.total_append, Meter.total_cons,
        q.timeless _ _ e d]
    | panicked | abandoned => rfl
  · rfl

namespace Ticket

def entry (t : Ticket) : List Recording :=
  match t.call? with
  | some k => t.tracer.kept (Tracer.entryRecordings k.transport t.request)
  | none => []

def exit (t : Ticket) : List Recording :=
  match t.call?, t.pause with
  | some k, .ended h => t.tracer.kept (Tracer.exitRecordings k.transport (.ofMillis 0) h)
  | _, _ => []

def share (q : Meter) (t : Ticket) : Int := q.total t.entry + q.total t.exit

variable (t : Ticket)

lemma exit_of_running (h : t.pause.isEnded = false) : t.exit = [] := by
  simp only [exit]
  split
  · rename_i hp
    rw [hp] at h
    contradiction
  · rfl

lemma begin_gains (x : Exchange) :
    x.world.sink.Gains (·.total t.entry) (t.begin x).world.sink := by
  simp only [begin, entry]
  cases t.call? with
  | none => exact Sink.gains_records [] x.world.sink
  | some k =>
    simp only [Tracer.enter_sink]
    exact Sink.gains_records _ x.world.sink

lemma stop_gains (h : Halt) (x : Exchange) :
    x.world.sink.Gains (·.total (t.stop h x).1.exit) (t.stop h x).2.sink := by
  cases hc : t.call? with
  | none =>
    have he : (t.stop h x).1.exit = [] := by
      have hc' : (t.stop h x).1.call? = none := hc
      simp only [exit, hc']
    have hf : (t.stop h x).2 = x.world := by simp only [stop, finish, hc]
    rw [he, hf]
    exact Sink.gains_records [] x.world.sink
  | some k =>
    have he : (t.stop h x).1.exit =
        t.tracer.kept (Tracer.exitRecordings k.transport (.ofMillis 0) h) := by
      have hc' : (t.stop h x).1.call? = some k := hc
      simp only [exit, hc']
      rfl
    have hf : (t.stop h x).2 = (t.tracer.finish k h x).world := by simp only [stop, finish, hc]
    have hk : k.identity.Legal := by
      obtain ⟨u, hu, rfl⟩ := Option.map_eq_some_iff.mp hc
      exact Context.identity_legal _
    rw [he, hf, t.tracer.finish_sink hk]
    -- the time that the call took is recorded, but no meter shows it
    apply (Sink.gains_records _ _).congr
    intro q
    exact t.tracer.total_kept_exit q k.transport _ _ h

lemma turn_of_advance {p : Program} {q : Program.Pause} {x y : Exchange}
    (hp : p.advance t.handlerContext x = (q, y)) (hq : q.isEnded = false) :
    t.turn p x = (t.keep q y, y.world) := by
  simp only [turn, hp]
  cases q with
  | ended => contradiction
  | asleep | awaiting | hung => rfl

lemma turn_entry (p : Program) (x : Exchange) : (t.turn p x).1.entry = t.entry := by
  simp only [turn]
  split <;> rfl

lemma turn_gains (p : Program) (x : Exchange) :
    x.world.sink.Gains (·.total (t.turn p x).1.exit) (t.turn p x).2.sink := by
  obtain ⟨own, ho⟩ := Program.advance_handled t.handlerContext p x
  rw [← ho.sink]
  rcases hp : p.advance t.handlerContext x with ⟨q, y⟩
  cases q with
  | ended h =>
    have ht : t.turn p x = t.stop h y := by simp only [turn, hp]
    rw [ht]
    exact t.stop_gains h y
  | asleep | awaiting | hung =>
    rw [t.turn_of_advance hp rfl, exit_of_running _ rfl]
    exact Sink.gains_records [] y.world.sink

end Ticket

namespace Traffic

def Balanced (s : Traffic) : Prop :=
  ∃ st, s.world.sink = .memory st ∧ ∀ q : Meter, q.read st = (s.calls.map (·.share q)).sum

lemma start_balanced (epoch : Nat) : (start epoch).Balanced :=
  ⟨.empty, rfl, fun q => q.read_empty⟩

variable {s : Traffic} {w : World} {t u : Ticket}

lemma Balanced.add (hs : s.Balanced) (hw : s.world.sink.Gains (t.share ·) w.sink) :
    Balanced ⟨w, s.calls ++ [t]⟩ := by
  obtain ⟨st, hst, hq⟩ := hs
  obtain ⟨st', hst', hg⟩ := hw st hst
  refine ⟨st', hst', ?_⟩
  intro q
  simp only [hg q, hq q, List.map_append, List.sum_append, List.map_cons, List.map_nil,
    List.sum_singleton]

lemma sum_map_set (f : Ticket → Int) (calls : List Ticket) (i : Nat) (h : calls[i]? = some t) :
    ((calls.set i u).map f).sum = (calls.map f).sum + (f u - f t) := by
  induction calls generalizing i with
  | nil => contradiction
  | cons v vs ih =>
    cases i with
    | zero =>
      obtain rfl : v = t := Option.some.inj h
      simp only [List.set_cons_zero, List.map_cons, List.sum_cons]
      omega
    | succ i =>
      have hvs := ih i h
      simp only [List.set_cons_succ, List.map_cons, List.sum_cons, hvs]
      omega

lemma Balanced.set (hs : s.Balanced) {i : Nat} (hi : s.calls[i]? = some t)
    (ht : t.pause.isEnded = false) (hu : u.entry = t.entry)
    (hw : s.world.sink.Gains (·.total u.exit) w.sink) : Balanced ⟨w, s.calls.set i u⟩ := by
  obtain ⟨st, hst, hq⟩ := hs
  obtain ⟨st', hst', hg⟩ := hw st hst
  refine ⟨st', hst', ?_⟩
  intro q
  rw [sum_map_set _ _ _ hi, hg q, hq q]
  simp only [Ticket.share, hu, t.exit_of_running ht, Meter.total_nil]
  omega

lemma enter_balanced (hs : s.Balanced) (tr : Tracer) (inner : Context → Payload → Program)
    (c : Context) (request : Payload) : (s.enter tr inner c request).Balanced := by
  simp only [enter]
  split
  · exact hs.add ((Sink.gains_records [] s.world.sink).congr fun q => rfl)
  · apply hs.add
    refine ((Ticket.begin_gains _ (.start s.world)).trans (Ticket.turn_gains _ _ _)).congr ?_
    intro q
    rw [Ticket.share, Ticket.turn_entry]

lemma running_of_woken? {q : Program.Pause} {c : Context} {e : ServiceError} {p : Program}
    (h : q.woken? w c e = some p) : q.isEnded = false := by
  cases q with
  | ended => contradiction
  | asleep | awaiting | hung => rfl

lemma resume_balanced (hs : s.Balanced) (i : Nat) (e : ServiceError) :
    (s.resume i e).Balanced := by
  simp only [resume]
  split
  · rename_i t ht
    split
    · rename_i p hp
      exact hs.set ht (running_of_woken? hp) (t.turn_entry p _)
        (t.turn_gains p (t.exchange s.world))
    · exact hs
  · exact hs

lemma drop_balanced (hs : s.Balanced) (i : Nat) : (s.drop i).Balanced := by
  simp only [drop]
  split
  · rename_i t ht
    split
    · exact hs
    · rename_i hp
      exact hs.set ht (Bool.eq_false_iff.mpr hp) rfl
        (t.stop_gains .abandoned (t.exchange s.world))
  · exact hs

lemma move_balanced (hs : s.Balanced) (m : Move) : (s.move m).Balanced := by
  cases m with
  | enter tr inner c request => exact enter_balanced hs tr inner c request
  | resume i e => exact resume_balanced hs i e
  | drop i => exact drop_balanced hs i
  | elsewhere f hf =>
    obtain ⟨st, hst, hq⟩ := hs
    exact ⟨st, (hf s.world).trans hst, hq⟩

lemma after_balanced (hs : s.Balanced) (moves : List Move) : (s.after moves).Balanced := by
  induction moves generalizing s with
  | nil => exact hs
  | cons m ms ih => exact ih (move_balanced hs m)

end Traffic

namespace Ticket

def result? (t : Ticket) : Option (Except ServiceError Payload) :=
  match t.pause with
  | .ended (.returned r) => some r
  | _ => none

def isPending (t : Ticket) : Bool := !t.pause.isEnded

def hasEncodableReply (t : Ticket) : Bool :=
  t.result?.any fun r => (Tracer.reply? r).any Payload.isEncodable

def isOf (p : Transport → Bool) (t : Ticket) : Bool := t.tracer.measures && t.transport?.any p

def exitOf (u : Transport) : Program.Pause → List Recording
  | .ended h => Tracer.exitRecordings u (.ofMillis 0) h
  | _ => []

lemma total_entry (q : Meter) (u : Transport) (p : Payload) :
    q.total (Tracer.entryRecordings u p) = q.weight (.enter u.operation) +
      if p.isEncodable then q.weight (.requestSize u.method u.operation 0) else 0 := by
  rw [← Log.wireSize?_isSome, Tracer.entryRecordings, Meter.total_cons]
  cases Log.wireSize? p with
  | none => rfl
  | some n => simp [(q.sizeless u.method u.operation n 0).1]

def exitTotal (q : Meter) (u : Transport) : Program.Pause → Int
  | .ended (.returned (.ok p)) =>
    q.weight (.duration u.method u.operation (.ofMillis 0)) +
      q.weight (.request u.method u.operation success) +
      (if p.isEncodable then q.weight (.responseSize u.method u.operation 0) else 0) +
      q.weight (.leave u.operation)
  | .ended (.returned (.error _)) =>
    q.weight (.duration u.method u.operation (.ofMillis 0)) +
      q.weight (.request u.method u.operation error) +
      q.weight (.failure u.method u.operation handlerError) + q.weight (.leave u.operation)
  | .ended _ => q.weight (.leave u.operation)
  | _ => 0

lemma total_exit (q : Meter) (u : Transport) (s : Program.Pause) :
    q.total (exitOf u s) = exitTotal q u s := by
  rcases s with ((e | p) | _ | _) | _ | _ | _
  · simp [exitOf, exitTotal, Tracer.exitRecordings, Tracer.resultRecordings, Tracer.reply?,
      Tracer.status, Tracer.failures, Int.add_assoc]
  · simp only [exitTotal]
    rw [← Log.wireSize?_isSome]
    cases h : Log.wireSize? p with
    | none => simp [exitOf, Tracer.exitRecordings, Tracer.resultRecordings, Tracer.reply?, h,
        Tracer.status, Tracer.failures, Int.add_assoc]
    | some n => simp [exitOf, Tracer.exitRecordings, Tracer.resultRecordings, Tracer.reply?, h,
        Tracer.status, Tracer.failures, (q.sizeless u.method u.operation n 0).2, Int.add_assoc]
  all_goals simp [exitOf, exitTotal, Tracer.exitRecordings]

lemma share_eq {q : Meter} {t : Ticket} {p : Transport → Bool} {b : Bool}
    (h : ∀ u, q.weight (.enter u.operation) +
      (if t.request.isEncodable then q.weight (.requestSize u.method u.operation 0) else 0) +
      exitTotal q u t.pause = if p u && b then 1 else 0) :
    t.share q = if t.isOf p && b then 1 else 0 := by
  cases ht : t.transport? with
  | none =>
    have hc : t.call? = none := by simp only [call?, ht, Option.map_none]
    simp [share, entry, exit, isOf, hc, ht]
  | some u =>
    have hc : t.call? = some (.start t.context u t.entered) := by
      simp only [call?, ht, Option.map_some]
    have hu : (Tracer.Call.start t.context u t.entered).transport = u := rfl
    have he : t.exit = t.tracer.kept (exitOf u t.pause) := by
      simp only [exit, hc]
      cases hp : t.pause with
      | ended x => rfl
      | asleep | awaiting | hung => simp [exitOf, Tracer.kept]
    simp only [share, entry, hc, he, hu, isOf, ht, Option.any_some]
    cases hm : t.tracer.measures with
    | false => simp [Tracer.kept, hm]
    | true =>
      simp only [Tracer.kept, hm, ↓reduceIte, Bool.true_and]
      rw [total_entry, total_exit, h u]

variable (t : Ticket) (m op : String)

lemma share_inflight :
    t.share (.inflight op) = if t.isOf (op = ·.operation) && t.isPending then 1 else 0 := by
  apply share_eq
  intro u
  by_cases hu : op = u.operation <;> rcases hp : t.pause with ((_ | _) | _ | _) | _ | _ | _ <;>
    simp [exitTotal, isPending, Program.Pause.isEnded, Meter.inflight, hp, hu]

lemma share_durations :
    t.share (.durations m op) = if t.isOf (·.isAt m op) && t.result?.isSome then 1 else 0 := by
  apply share_eq
  intro u
  rcases hp : t.pause with ((_ | _) | _ | _) | _ | _ | _ <;>
    simp [exitTotal, result?, Meter.durations, Transport.isAt, hp]

lemma share_successes :
    t.share (.requests m op success) =
      if t.isOf (·.isAt m op) && t.result?.any (·.isOk) then 1 else 0 := by
  apply share_eq
  intro u
  rcases hp : t.pause with ((_ | _) | _ | _) | _ | _ | _ <;>
    simp [exitTotal, result?, Meter.requests, Transport.isAt, hp, success, error, Except.isOk,
      Except.toBool]

lemma share_failures :
    t.share (.requests m op error) =
      if t.isOf (·.isAt m op) && t.result?.any (!·.isOk) then 1 else 0 := by
  apply share_eq
  intro u
  rcases hp : t.pause with ((_ | _) | _ | _) | _ | _ | _ <;>
    simp [exitTotal, result?, Meter.requests, Transport.isAt, hp, success, error, Except.isOk,
      Except.toBool]

lemma share_errors :
    t.share (.errors m op handlerError) =
      if t.isOf (·.isAt m op) && t.result?.any (!·.isOk) then 1 else 0 := by
  apply share_eq
  intro u
  rcases hp : t.pause with ((_ | _) | _ | _) | _ | _ | _ <;>
    simp [exitTotal, result?, Meter.errors, Transport.isAt, hp, Except.isOk, Except.toBool]

lemma share_requestSizes :
    t.share (.requestSizes m op) =
      if t.isOf (·.isAt m op) && t.request.isEncodable then 1 else 0 := by
  apply share_eq
  intro u
  cases t.request.isEncodable <;> rcases hp : t.pause with ((_ | _) | _ | _) | _ | _ | _ <;>
    simp [exitTotal, Meter.requestSizes, Transport.isAt]

lemma share_responseSizes :
    t.share (.responseSizes m op) =
      if t.isOf (·.isAt m op) && t.hasEncodableReply then 1 else 0 := by
  apply share_eq
  intro u
  rcases hp : t.pause with ((_ | p) | _ | _) | _ | _ | _
  · simp [exitTotal, hasEncodableReply, result?, Tracer.reply?, Meter.responseSizes, hp]
  · cases he : p.isEncodable <;>
      simp [exitTotal, hasEncodableReply, result?, Tracer.reply?, Meter.responseSizes,
        Transport.isAt, hp, he]
  all_goals simp [exitTotal, hasEncodableReply, result?, Meter.responseSizes, hp]

end Ticket

namespace Traffic

lemma sum_share {q : Meter} {p : Ticket → Bool} (h : ∀ t, t.share q = if p t then 1 else 0)
    (calls : List Ticket) : (calls.map (·.share q)).sum = (calls.countP p : Nat) := by
  induction calls with
  | nil => rfl
  | cons t ts ih =>
    rw [List.map_cons, List.sum_cons, ih, h t, List.countP_cons]
    split <;> omega

variable {s : Traffic} {st : Store}

lemma read_share (hq : ∀ q : Meter, q.read st = (s.calls.map (·.share q)).sum) {q : Meter}
    {p : Ticket → Bool} (h : ∀ t, t.share q = if p t then 1 else 0) :
    q.read st = (s.calls.countP p : Nat) := (hq q).trans (sum_share h s.calls)

/-- However calls come in, go on, end and are dropped: the gauge of an operation shows its calls that
are pending, and the counters show those that have ended. -/
theorem metrics_conserved (epoch : Nat) (moves : List Move) :
    let s := (start epoch).after moves
    ∃ st, s.world.sink = .memory st ∧
      (∀ op, st.inflightOf op =
        (s.calls.countP fun t => t.isOf (op = ·.operation) && t.isPending : Nat)) ∧
      ((∀ t ∈ s.calls, t.isPending = false) → ∀ op, st.inflightOf op = 0) ∧
      ∀ m op,
        (st.durationOf m op).count = st.requestsOf m op success + st.requestsOf m op error ∧
        (st.durationOf m op).count =
          (s.calls.countP fun t => t.isOf (·.isAt m op) && t.result?.isSome) ∧
        st.requestsOf m op success =
          (s.calls.countP fun t => t.isOf (·.isAt m op) && t.result?.any (·.isOk)) ∧
        st.requestsOf m op error =
          (s.calls.countP fun t => t.isOf (·.isAt m op) && t.result?.any (!·.isOk)) ∧
        st.errorsOf m op handlerError = st.requestsOf m op error ∧
        (st.requestSizeOf m op).count =
          (s.calls.countP fun t => t.isOf (·.isAt m op) && t.request.isEncodable) ∧
        (st.responseSizeOf m op).count =
          (s.calls.countP fun t => t.isOf (·.isAt m op) && t.hasEncodableReply) := by
  intro s
  obtain ⟨st, hst, hq⟩ := after_balanced (start_balanced epoch) moves
  have inflight : ∀ op, st.inflightOf op =
      (s.calls.countP fun t => t.isOf (op = ·.operation) && t.isPending : Nat) :=
    fun op => read_share hq fun t => t.share_inflight op
  refine ⟨st, hst, inflight, ?_, ?_⟩
  · intro hidle op
    rw [inflight op, Int.natCast_eq_zero, List.countP_eq_zero]
    intro t ht
    simp [hidle t ht]
  · intro m op
    have durations := read_share hq fun t => t.share_durations m op
    have successes := read_share hq fun t => t.share_successes m op
    have failures := read_share hq fun t => t.share_failures m op
    have errors := read_share hq fun t => t.share_errors m op
    have requestSizes := read_share hq fun t => t.share_requestSizes m op
    have responseSizes := read_share hq fun t => t.share_responseSizes m op
    -- every result is counted as a success or as an error, so the shares add up call by call
    have split : (Meter.durations m op).read st =
        (Meter.requests m op success).read st + (Meter.requests m op error).read st := by
      rw [hq, hq, hq, ← List.sum_map_add]
      congr 2
      funext t
      rw [t.share_durations, t.share_successes, t.share_failures]
      rcases t.result? with _ | (_ | _) <;> simp [Except.isOk, Except.toBool]
    refine ⟨Int.ofNat_inj.mp split, Int.ofNat_inj.mp durations, Int.ofNat_inj.mp successes,
      Int.ofNat_inj.mp failures, Int.ofNat_inj.mp (errors.trans failures.symm),
      Int.ofNat_inj.mp requestSizes, Int.ofNat_inj.mp responseSizes⟩

end Traffic

end RpcServer
