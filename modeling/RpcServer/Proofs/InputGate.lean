import RpcServer.Proofs.Encoding
import RpcServer.Proofs.Invocation

/-! The gate in front of a handler. A request whose input cannot be read gets an error of the client's
and leaves nothing of a call behind. Any other request calls its handler once, on what its body says
or, if that is blank, on what its query says. -/

namespace RpcServer.Http

open Metrics

namespace RequestShape

inductive Reads (shape : RequestShape) (r : Request) (v : Json) : Prop where
  | body {b : UInt8} : b ∈ r.body → Text.isBlankByte b = false → shape.ofBody? r.body = some v →
      Reads shape r v
  | query : (∀ b ∈ r.body, Text.isBlankByte b = true) →
      shape.ofPairs? (Query.pairs (r.uri.query.getD "")) = some v → Reads shape r v

inductive Unreadable (shape : RequestShape) (maxBodyBytes : ℕ) (r : Request) : Prop where
  | tooLong : maxBodyBytes < r.body.length → Unreadable shape maxBodyBytes r
  | body {b : UInt8} : b ∈ r.body → Text.isBlankByte b = false → shape.ofBody? r.body = none →
      Unreadable shape maxBodyBytes r
  | query : (∀ b ∈ r.body, Text.isBlankByte b = true) →
      shape.ofPairs? (Query.pairs (r.uri.query.getD "")) = none → Unreadable shape maxBodyBytes r

/-- Two requests that say the same: in one body, whatever the queries, or in one query, whatever the
blanks of their bodies. -/
inductive SameInput (maxBodyBytes : ℕ) (r r' : Request) : Prop where
  | body {b : UInt8} : b ∈ r.body → Text.isBlankByte b = false → r'.body = r.body →
      SameInput maxBodyBytes r r'
  | query : (∀ b ∈ r.body, Text.isBlankByte b = true) →
      (∀ b ∈ r'.body, Text.isBlankByte b = true) → r.body.length ≤ maxBodyBytes →
      r'.body.length ≤ maxBodyBytes → r'.uri.query = r.uri.query → SameInput maxBodyBytes r r'

lemma isBlank_eq_true {body : List UInt8} :
    isBlank body = true ↔ ∀ b ∈ body, Text.isBlankByte b = true := List.all_eq_true

lemma isBlank_eq_false {body : List UInt8} :
    isBlank body = false ↔ ∃ b ∈ body, Text.isBlankByte b = false := by
  simp [isBlank]

end RequestShape

namespace Dispatcher

open RequestShape

section Input

variable {shape : RequestShape} {n : ℕ} {r r' : Request} {v : Json} {e : ServiceError}

lemma input_of_body {b : UInt8} (hb : b ∈ r.body) (hn : Text.isBlankByte b = false)
    (hl : r.body.length ≤ n) :
    input shape n r = (shape.ofBody? r.body).elim (.error (undecodableBody shape r.body)) .ok := by
  have hblank : isBlank r.body = false := isBlank_eq_false.mpr ⟨b, hb, hn⟩
  simp only [input, Nat.not_lt.mpr hl, hblank, Bool.false_eq_true, ↓reduceIte]
  cases shape.ofBody? r.body <;> rfl

lemma input_of_query (hb : ∀ b ∈ r.body, Text.isBlankByte b = true) (hl : r.body.length ≤ n) :
    let pairs := Query.pairs (r.uri.query.getD "")
    input shape n r = (shape.ofPairs? pairs).elim (.error (undecodableQuery shape pairs)) .ok := by
  have hblank : isBlank r.body = true := isBlank_eq_true.mpr hb
  simp only [input, Nat.not_lt.mpr hl, hblank, ↓reduceIte]
  cases shape.ofPairs? (Query.pairs (r.uri.query.getD "")) <;> rfl

lemma input_of_reads (hl : r.body.length ≤ n) (hv : shape.Reads r v) :
    input shape n r = .ok v := by
  cases hv with
  | body hb hn hv => rw [input_of_body hb hn hl, hv, Option.elim_some]
  | query hb hv => rw [input_of_query hb hl, hv, Option.elim_some]

lemma input_of_unreadable (hu : shape.Unreadable n r) : ∃ e, input shape n r = .error e := by
  by_cases hl : n < r.body.length
  · exact ⟨bodyTooLong, by simp only [input, hl, ↓reduceIte]⟩
  cases hu with
  | tooLong hn => exact absurd hn hl
  | body hb hn hv => exact ⟨_, by rw [input_of_body hb hn (Nat.not_lt.mp hl), hv, Option.elim_none]⟩
  | query hb hv => exact ⟨_, by rw [input_of_query hb (Nat.not_lt.mp hl), hv, Option.elim_none]⟩

lemma reads_of_not_unreadable (hu : ¬ shape.Unreadable n r) :
    r.body.length ≤ n ∧ ∃ v, shape.Reads r v := by
  refine ⟨Nat.not_lt.mp fun hl => hu (.tooLong hl), ?_⟩
  cases hb : isBlank r.body with
  | false =>
    obtain ⟨b, hb, hn⟩ := isBlank_eq_false.mp hb
    obtain ⟨v, hv⟩ := Option.ne_none_iff_exists'.mp fun hv => hu (.body hb hn hv)
    exact ⟨v, .body hb hn hv⟩
  | true =>
    have hb := isBlank_eq_true.mp hb
    obtain ⟨v, hv⟩ := Option.ne_none_iff_exists'.mp fun hv => hu (.query hb hv)
    exact ⟨v, .query hb hv⟩

lemma input_of_same (hs : SameInput n r r') : input shape n r' = input shape n r := by
  cases hs with
  | body hb hn he =>
    by_cases hl : n < r.body.length
    · simp only [input, he, hl, ↓reduceIte]
    · have hl := Nat.not_lt.mp hl
      rw [input_of_body hb hn hl, input_of_body (he ▸ hb) hn (he ▸ hl), he]
  | query hb hb' hl hl' he => rw [input_of_query hb hl, input_of_query hb' hl', he]

lemma code_of_input_error (hi : input shape n r = .error e) : e.code = 400 := by
  simp only [input] at hi
  split at hi
  · rw [← Except.error.inj hi]
    rfl
  · split at hi <;> split at hi
    · contradiction
    · rw [← Except.error.inj hi]
      rfl
    · contradiction
    · rw [← Except.error.inj hi]
      rfl

end Input

variable {d : Dispatcher} {limit limit' : Instant} {route : Route} {r r' : Request} {w w' : World}
  {v : Json}

structure Refuses (d : Dispatcher) (limit : Instant) (route : Route) (r : Request) (w : World) :
    Prop where
  response : ∃ e, e.code = 400 ∧ (d.dispatch limit route r w).1 =
    outcome .ofEncoded ((d.encoder.encodeError r.headers e).map (·.1))
  headers : ∀ response, (d.dispatch limit route r w).1 = .answered response →
    ∃ t, response.headers.entries = [(.contentType, t)]
  effects : ∃ es, (d.dispatch limit route r w).2 = w.after es ∧
    es.filterMap Effect.invocation? = [] ∧ es.filterMap Effect.write? = [] ∧
    es.filterMap Effect.recording? =
      (if d.tracer.measures then [.failure r.method r.uri.path serverError] else []) ∧
    ∀ e ∈ es.filterMap Effect.event?, e.target = Log.Target.envelope

lemma failureEffects_recordings (d : Dispatcher) (r : Request) (e : ServiceError) :
    (d.failureEffects r e).filterMap Effect.recording? =
      if d.tracer.measures then [.failure r.method r.uri.path serverError] else [] := by
  rw [failureEffects, List.filterMap_append, encodingEffects_filterMap fun _ => rfl,
    List.append_nil, Tracer.measured]
  split <;> rfl

lemma failureEffects_writes (d : Dispatcher) (r : Request) (e : ServiceError) :
    (d.failureEffects r e).filterMap Effect.write? = [] := by
  rw [failureEffects, List.filterMap_append, Tracer.measured_writes,
    encodingEffects_filterMap fun _ => rfl, List.nil_append]

lemma failureEffects_events (d : Dispatcher) (r : Request) (err : ServiceError) :
    ∀ e ∈ (d.failureEffects r err).filterMap Effect.event?, e.target = Log.Target.envelope := by
  intro e he
  obtain ⟨f, hf, hfe⟩ := List.mem_filterMap.mp he
  rcases List.mem_append.mp hf with hm | hm
  · simp only [Tracer.measured] at hm
    split at hm
    · rw [List.map_singleton, List.mem_singleton] at hm
      subst hm
      contradiction
    · exact absurd hm List.not_mem_nil
  · cases hr : d.encoder.encodeError r.headers err with
    | error p => simp [hr, encodingEffects] at hm
    | ok out =>
      rw [hr, encodingEffects, List.mem_map] at hm
      obtain ⟨ev, hev, rfl⟩ := hm
      obtain rfl : ev = e := Option.some.inj hfe
      exact Reply.Encoder.encodeError_events hr ev hev

lemma refuses_of_unreadable (hu : route.shape.Unreadable d.maxBodyBytes r) :
    d.Refuses limit route r w := by
  obtain ⟨e, hi⟩ := input_of_unreadable hu
  have hd := d.dispatch_of_input_error hi limit w
  refine ⟨⟨e, code_of_input_error hi, by rw [hd, reject_fst]⟩, ?_,
    d.failureEffects r e, by rw [hd, reject_snd], d.failureEffects_invocations r e,
    d.failureEffects_writes r e, d.failureEffects_recordings r e, d.failureEffects_events r e⟩
  intro response hr
  rw [hd, reject_fst] at hr
  cases he : d.encoder.encodeError r.headers e with
  | error p =>
    rw [he] at hr
    contradiction
  | ok out =>
    rw [he] at hr
    exact ⟨out.1.contentType, by rw [← Outcome.answered.inj hr]; rfl⟩

def Calls (d : Dispatcher) (limit : Instant) (route : Route) (r : Request) (w : World) (v : Json) :
    Prop :=
  ∃ c start own h y, d.Invokes limit route r w c v start own h y

structure Timely (d : Dispatcher) (w : World) : Prop where
  tidy : w.Tidy
  positive : 0 < d.timeoutSecs
  shown : w.epoch + w.now / 1000 + d.timeoutSecs ≤ World.lastSecond

lemma Timely.calls (ht : d.Timely w) (hv : input route.shape d.maxBodyBytes r = .ok v) :
    d.Calls limit route r w v := by
  obtain ⟨c, start, own, h, y, hi, -⟩ := invokes_in_time ht.tidy ht.positive ht.shown hv limit
  exact ⟨c, start, own, h, y, hi⟩

/-- A request whose input is not readable is refused and leaves no call behind. Any other calls the
handler once, on the value of its body, which may be as long as the limit, or of its query if the
body is blank; and no other part of a request has a say in that value. -/
theorem gates_handler (d : Dispatcher) (limit : Instant) (route : Route) (r : Request) (w : World)
    (ht : d.Timely w) :
    (route.shape.Unreadable d.maxBodyBytes r → d.Refuses limit route r w) ∧
    (¬ route.shape.Unreadable d.maxBodyBytes r →
      ∃ v, route.shape.Reads r v ∧ d.Calls limit route r w v) ∧
    (∀ v, r.body.length ≤ d.maxBodyBytes → route.shape.Reads r v → d.Calls limit route r w v) ∧
    ∀ limit' r' w', d.Timely w' → SameInput d.maxBodyBytes r r' →
      ¬ route.shape.Unreadable d.maxBodyBytes r →
      ∃ v, d.Calls limit route r w v ∧ d.Calls limit' route r' w' v := by
  refine ⟨refuses_of_unreadable, fun hu => ?_, fun v hl hv => ht.calls (input_of_reads hl hv),
    fun limit' r' w' ht' hs hu => ?_⟩
  · obtain ⟨hl, v, hv⟩ := reads_of_not_unreadable hu
    exact ⟨v, hv, ht.calls (input_of_reads hl hv)⟩
  · obtain ⟨hl, v, hv⟩ := reads_of_not_unreadable hu
    have hi := input_of_reads hl hv
    exact ⟨v, ht.calls hi, ht'.calls ((input_of_same hs).trans hi)⟩

theorem gates_handler_at_limit :
    let d : Dispatcher := ⟨⟨.new, ⟨none, 500⟩, 0, "ok"⟩, {}, "http://localhost", 5, 2⟩
    let w := World.start 0 .discard
    let greet : Route := ⟨"/Greeter/Hello", .any, fun _ v => .reply (.document v)⟩
    let r : Request := ⟨"POST", ⟨"/hello", none⟩, .empty, [0x34, 0x32]⟩
    let long : Request := { r with body := r.body ++ [0x20] }
    let asking : Request := { r with uri := ⟨"/hello", some "name=x"⟩ }
    d.Timely w ∧ r.body.length = d.maxBodyBytes ∧ d.Calls 9 greet r w (.int 42) ∧
      d.Refuses 9 greet long w ∧ ∃ v, d.Calls 9 greet r w v ∧ d.Calls 9 greet asking w v := by
  intro d w greet r long asking
  have ht : d.Timely w := ⟨World.start_tidy 0 .discard, by decide, by decide⟩
  have hb : (0x34 : UInt8) ∈ r.body := by decide
  have hn : Text.isBlankByte 0x34 = false := by decide
  have hl : r.body.length ≤ d.maxBodyBytes := by decide
  have hv : greet.shape.Reads r (.int 42) := .body hb hn rfl
  have hu : ¬ greet.shape.Unreadable d.maxBodyBytes r := by
    intro hu
    obtain ⟨e, he⟩ := input_of_unreadable hu
    rw [input_of_reads hl hv] at he
    contradiction
  obtain ⟨-, -, hcalls, hsame⟩ := gates_handler d 9 greet r w ht
  exact ⟨ht, rfl, hcalls (.int 42) hl hv, (gates_handler d 9 greet long w ht).1 (.tooLong (by decide)),
    hsame 9 asking w ht (.body hb hn rfl) hu⟩

end Dispatcher

end RpcServer.Http
