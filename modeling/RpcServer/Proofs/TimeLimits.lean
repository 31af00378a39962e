import RpcServer.Proofs.FailedRequests
import RpcServer.Proofs.Invocation
import RpcServer.Proofs.ResponseIdentity
import RpcServer.Proofs.Validity

/-! Time limits that a valid configuration may set. Such a limit is positive, so that every call
starts; it may still reach beyond what the clock can show, and that is where a dispatch panics. -/

namespace RpcServer

namespace Config

lemma requestTimeout_pos {c : Config} (h : violations c = []) : 0 < c.server.requestTimeoutSecs :=
  Nat.pos_of_ne_zero (violations_eq_nil_iff_valid.mp h).requestTimeout

end Config

namespace Http

namespace Dispatcher

variable {d : Dispatcher} {limit : Instant} {route : Route} {r : Request} {w : World}

inductive Settles (d : Dispatcher) (r : Request) : Halt → Outcome → Prop where
  | answered {h : Halt} {result : Except ServiceError Payload} {left : Headers}
      {e : Reply.Encoded} {events : List Log.Event} : h.result? = some result →
      d.encoding r result = .ok (e, events) → Settles d r h (.answered (.withReply e left))
  | abandoned : Settles d r .abandoned .abandoned

lemma Invokes.settles {c : Context} {v : Json} {start y : Exchange} {own : List Effect} {h : Halt}
    (hi : d.Invokes limit route r w c v start own h y) (he : d.encoder.Steady r.headers) :
    d.Settles r h (d.dispatch limit route r w).1 := by
  cases hres : h.result? with
  | none =>
    have hh : h = .abandoned := by cases h <;> first | rfl | contradiction
    rw [hi.abandoned hh, hh]
    exact .abandoned
  | some result =>
    obtain ⟨left, ho⟩ := hi.answered result hres
    obtain ⟨e, events, hm, -⟩ := encoding_steady he result
    rw [ho, hm]
    exact .answered hres hm

lemma Settles.not_panicked {h : Halt} {o : Outcome} (hs : d.Settles r h o) (p : Panic) :
    o ≠ .panicked p := by
  cases hs <;> exact Outcome.noConfusion

lemma dispatch_refused {e : ServiceError} (hi : input route.shape d.maxBodyBytes r = .error e)
    (he : d.encoder.Steady r.headers) (limit : Instant) (w : World) : ∃ encoded events,
      d.encoder.encodeError r.headers e = .ok (encoded, events) ∧
      (d.dispatch limit route r w).1 = .answered (.ofEncoded encoded) := by
  obtain ⟨encoded, events, hm, -⟩ := he.encodeError e
  refine ⟨encoded, events, hm, ?_⟩
  rw [d.dispatch_of_input_error hi, reject_fst, hm]
  rfl

lemma dispatch_beyond_clock {v : Json} (hv : input route.shape d.maxBodyBytes r = .ok v)
    (hlate : World.lastSecond < w.epoch + w.now / 1000 + d.timeoutSecs) :
    (d.dispatch limit route r w).1 = .panicked .clockOverflow := by
  have ha : w.issue.2.after? d.timeoutSecs = none := World.after?_eq_none_iff.mpr hlate
  simp only [dispatch, hv, call, ha]

lemma dispatch_in_time {v : Json} (hw : w.Tidy) (hn : 0 < d.timeoutSecs)
    (he : d.encoder.Steady r.headers) (hv : input route.shape d.maxBodyBytes r = .ok v)
    (limit : Instant) (hle : w.epoch + w.now / 1000 + d.timeoutSecs ≤ World.lastSecond) :
    ∃ c start own h y, d.Invokes limit route r w c v start own h y ∧
      c.deadline = some (w.now + 1000 * d.timeoutSecs) ∧
      d.Settles r h (d.dispatch limit route r w).1 := by
  obtain ⟨c, start, own, h, y, hi, hd⟩ := invokes_in_time hw hn hle hv limit
  exact ⟨c, start, own, h, y, hi, hd, hi.settles he⟩

lemma dispatch_panicked_iff (hw : w.Tidy) (hn : 0 < d.timeoutSecs)
    (he : d.encoder.Steady r.headers) {p : Panic} :
    (d.dispatch limit route r w).1 = .panicked p ↔ p = .clockOverflow ∧
      (∃ v, input route.shape d.maxBodyBytes r = .ok v) ∧
      World.lastSecond < w.epoch + w.now / 1000 + d.timeoutSecs := by
  refine ⟨fun hp => ?_, fun ⟨hp, ⟨v, hv⟩, hlate⟩ => hp ▸ dispatch_beyond_clock hv hlate⟩
  cases hi : input route.shape d.maxBodyBytes r with
  | error e =>
    obtain ⟨encoded, _, -, ho⟩ := dispatch_refused hi he limit w
    rw [ho] at hp
    contradiction
  | ok v =>
    by_cases hlate : World.lastSecond < w.epoch + w.now / 1000 + d.timeoutSecs
    · rw [dispatch_beyond_clock hi hlate] at hp
      exact ⟨(Outcome.panicked.inj hp).symm, ⟨v, rfl⟩, hlate⟩
    · obtain ⟨_, _, _, _, _, -, -, hset⟩ :=
        dispatch_in_time hw hn he hi limit (Int.not_lt.mp hlate)
      exact absurd hp (hset.not_panicked p)

/-- Under a valid configuration a dispatch panics exactly when the handler's input is read and the
deadline would lie beyond the clock. A request whose input is not read is refused with an encoded
error, and any other calls its handler once, with its deadline, and is answered with the outcome. -/
theorem panics_iff_beyond_clock (b : Builder) (hb : Config.violations b.config = [])
    (limit : Instant) (route : Route) (r : Request) (w : World) (hw : w.Tidy)
    (he : b.encoder.Steady r.headers) :
    let d := b.dispatcher
    let seconds : Nat := b.config.server.requestTimeoutSecs
    (∀ p, (d.dispatch limit route r w).1 = .panicked p ↔ p = .clockOverflow ∧
      (∃ v, input route.shape d.maxBodyBytes r = .ok v) ∧
      World.lastSecond < w.epoch + w.now / 1000 + seconds) ∧
    (∀ e, input route.shape d.maxBodyBytes r = .error e → ∃ encoded events,
      d.encoder.encodeError r.headers e = .ok (encoded, events) ∧
      (d.dispatch limit route r w).1 = .answered (.ofEncoded encoded)) ∧
    ∀ v, input route.shape d.maxBodyBytes r = .ok v →
      w.epoch + w.now / 1000 + seconds ≤ World.lastSecond →
      ∃ c start own h y, d.Invokes limit route r w c v start own h y ∧
        c.deadline = some (w.now + 1000 * seconds) ∧
        d.Settles r h (d.dispatch limit route r w).1 := by
  intro d seconds
  have hn : 0 < d.timeoutSecs := Config.requestTimeout_pos hb
  exact ⟨fun p => dispatch_panicked_iff hw hn he, fun e hi => dispatch_refused hi he limit w,
    fun v hv hle => dispatch_in_time hw hn he hv limit hle⟩

def patient : Config := { server := { requestTimeoutSecs := 18446744073709551615 } }

lemma encoder_steady (c : Config) : (Builder.new c).encoder.Steady .empty := by
  have hj : (Builder.new c).encoder.codecs.forRequest .empty = .json := rfl
  refine ⟨fun e => ⟨_, rfl⟩, ?_, ?_⟩
  · intro v
    rw [hj]
    exact ⟨_, rfl⟩
  · rw [hj]
    decide

theorem panics_iff_beyond_clock_greeting :
    let b := Builder.new {}
    let greet : Route := ⟨"/Greeter/Hello", .any, fun _ v => .reply (.document v)⟩
    let w := World.start 0 .discard
    (Config.violations b.config = [] ∧ w.Tidy ∧ b.encoder.Steady .empty) ∧
      (∀ p, (b.dispatcher.dispatch 9 greet Service.posted w).1 ≠ .panicked p) ∧
      ∃ c start own h y,
        b.dispatcher.Invokes 9 greet Service.posted w c (.object []) start own h y ∧
        c.deadline = some 10000 ∧
        b.dispatcher.Settles Service.posted h
          (b.dispatcher.dispatch 9 greet Service.posted w).1 := by
  intro b greet w
  have hw : w.Tidy := World.start_tidy 0 .discard
  obtain ⟨hp, -, hc⟩ := panics_iff_beyond_clock b Config.violations_default 9 greet
    Service.posted w hw (encoder_steady {})
  have hin : w.epoch + w.now / 1000 + ((10 : Nat) : Int) ≤ World.lastSecond := by decide
  obtain ⟨c, start, own, h, y, hi, hd, hs⟩ := hc (.object []) rfl hin
  have ht : w.now + 1000 * ((10 : Nat) : Int) = 10000 := by decide
  refine ⟨⟨Config.violations_default, hw, encoder_steady {}⟩, ?_,
    c, start, own, h, y, hi, hd.trans (congrArg some ht), hs⟩
  intro p h
  obtain ⟨-, -, hlate⟩ := (hp p).mp h
  exact absurd hin (Int.not_le.mpr hlate)

theorem valid_timeout_panics :
    let greet : Route := ⟨"/Greeter/Hello", .any, fun _ v => .reply (.document v)⟩
    let b := (Builder.new patient).route ⟨"POST", "/", greet⟩
    let w := World.start 0 .discard
    Config.violations b.config = [] ∧
      (∃ s, b.build = .ok s ∧ s.destination "POST" "/" = .route greet) ∧
      w.Tidy ∧ b.encoder.Steady .empty ∧
      (b.dispatcher.dispatch 9 greet Service.posted w).1 = .panicked .clockOverflow := by
  intro greet b w
  have hlate : World.lastSecond < w.epoch + w.now / 1000 + b.dispatcher.timeoutSecs := by decide
  exact ⟨by decide, Service.build_root patient greet, World.start_tidy 0 .discard,
    encoder_steady patient, dispatch_beyond_clock (v := .object []) rfl hlate⟩

end Dispatcher

end Http

end RpcServer
