import RpcServer.Proofs.FailedRequests
import RpcServer.Proofs.InputGate
import RpcServer.Proofs.JsonText
import RpcServer.Proofs.TimeLimits

/-! The codes that failed requests show. It is the failure's own code, or the configured one if it has
none, and nothing keeps a failure from having the code of a success for its own. -/

namespace RpcServer

namespace Config

lemma fallback_ne_success {c : Config} (h : violations c = []) :
    c.responses.fallbackErrorCode ≠ c.responses.successCode := by
  have hd := (violations_eq_nil_iff_valid.mp h).distinct
  simp only [codeFields, List.pairwise_cons, List.mem_cons, forall_eq_or_imp] at hd
  exact hd.1.2.2.1.symm

end Config

namespace Reply

namespace Envelope

def Shows (body : List UInt8) (code : Int32) : Prop :=
  ∃ e : Envelope, e.code = code ∧ body = Text.Utf8.encode e.render

def fields (e : Envelope) : List (String × Json) :=
  (e.message.map fun s => ("message", .string s)).toList ++
    (e.data.map fun v => ("data", v)).toList

lemma render_eq (e : Envelope) :
    e.render = '\x7b' :: Json.renderString "code" ++ ':' :: (Json.int e.code.toInt).render ++
      Json.fieldsText e.fields ++ ['\x7d'] := by
  rw [← Json.render_object_cons]
  rfl

lemma code_of_render {e f : Envelope} (h : e.render = f.render) : e.code = f.code := by
  have hi : ∀ c, c = ',' ∨ c = '\x7d' → Json.isIntegerChar c = false := by
    rintro c (rfl | rfl) <;> rfl
  obtain ⟨c, s, hs, hc⟩ := Json.fieldsText_head e.fields
  obtain ⟨d, t, ht, hd⟩ := Json.fieldsText_head f.fields
  rw [render_eq, render_eq] at h
  simp only [List.append_assoc, List.cons_append, hs, ht] at h
  have hn := List.append_cancel_left (List.cons.inj h).2
  exact Int32.toInt_inj.mp (Json.int_of_render_append (List.cons.inj hn).2 (hi c hc) (hi d hd))

lemma shows_iff (e : Envelope) (code : Int32) :
    Shows (Text.Utf8.encode e.render) code ↔ code = e.code := by
  constructor
  · rintro ⟨f, rfl, hf⟩
    exact (code_of_render (Text.Utf8.encode_injective hf)).symm
  · rintro rfl
    exact ⟨e, rfl, rfl⟩

end Envelope

lemma Codecs.forRequest_new (h : Headers) : Codecs.new.forRequest h = .json := by
  have hg : ∀ name c, Codecs.new.get? name = some c → c = .json := by
    intro name c hc
    exact List.mem_singleton.mp (List.mem_of_find?_eq_some hc)
  simp only [Codecs.forRequest]
  cases hs : (Codecs.accepted h).findSome? Codecs.new.get? with
  | none => rfl
  | some c =>
    obtain ⟨name, -, hc⟩ := List.exists_of_findSome?_eq_some hs
    exact hg name c hc

lemma Encoder.encode_plain {enc : Encoder} (hc : enc.codecs = .new) (h : Headers) (v : Envelope) :
    enc.encode h v = .ok (⟨200, .json, Text.Utf8.encode v.render⟩, []) := by
  have hj : enc.codecs.forRequest h = .json := by rw [hc, Codecs.forRequest_new]
  exact encode_json hj v

end Reply

namespace Http.Dispatcher

open Reply

/-- A request that fails, with the code that the failure itself carries: its input is not read, its
handler fails or panics, or its reply has no value. -/
inductive FailsWith (d : Dispatcher) (limit : Instant) (route : Route) (r : Request) (w : World) :
    Int32 → Prop where
  | refused {e : ServiceError} : input route.shape d.maxBodyBytes r = .error e →
      FailsWith d limit route r w 400
  | failed {e : ServiceError} {y : Exchange} :
      d.handled? limit route r w = some (.returned (.error e), y) → FailsWith d limit route r w e.code
  | panicked {p : Panic} {y : Exchange} :
      d.handled? limit route r w = some (.panicked p, y) → FailsWith d limit route r w 500
  | unconverted {reply : Payload} {f : Data.Failure} {y : Exchange} :
      d.handled? limit route r w = some (.returned (.ok reply), y) →
      reply.value? = some (.error f) → FailsWith d limit route r w 500

variable {b : Builder} {limit : Instant} {route : Route} {r : Request} {w : World} {own : Int32}

def shownCode (b : Builder) (own : Int32) : Int32 :=
  if own = 0 then b.config.responses.fallbackErrorCode else own

lemma encodeError_plain (hm : b.mapper = none) (hc : b.codecs = .new) (e : ServiceError) :
    b.dispatcher.encoder.encodeError r.headers e =
      .ok (⟨200, .json, Envelope.codeBody (shownCode b e.code)⟩, []) := by
  have hr : b.dispatcher.encoder.resolver.resolve (some e) = .ok (shownCode b e.code) := by
    simp [Builder.dispatcher, Builder.encoder, Resolver.resolve, hm, Resolver.defaultCode, shownCode]
  rw [Encoder.encodeError, hr]
  exact Encoder.encode_plain hc r.headers _

lemma answered_of_result {d : Dispatcher} {h : Halt} {y : Exchange}
    {result : Except ServiceError Payload} {e : Encoded} {events : List Log.Event}
    (hh : d.handled? limit route r w = some (h, y)) (hr : h.result? = some result)
    (he : d.encoding r result = .ok (e, events)) :
    ∃ response, (d.dispatch limit route r w).1 = .answered response ∧ response.body = e.body := by
  obtain ⟨c, v, start, own, hi⟩ := handled_invokes hh
  obtain ⟨left, ho⟩ := hi.answered result hr
  rw [he] at ho
  exact ⟨_, ho, rfl⟩

lemma answered_of_error (hm : b.mapper = none) (hc : b.codecs = .new) {h : Halt} {y : Exchange}
    {e : ServiceError} (hh : b.dispatcher.handled? limit route r w = some (h, y))
    (hr : h.result? = some (.error e)) :
    ∃ response, (b.dispatcher.dispatch limit route r w).1 = .answered response ∧
      response.body = Envelope.codeBody (shownCode b e.code) := by
  obtain ⟨response, ho, hbody⟩ := answered_of_result hh hr (encodeError_plain hm hc e)
  exact ⟨response, ho, hbody⟩

lemma answered_of_refusal (hm : b.mapper = none) (hc : b.codecs = .new) {e : ServiceError}
    (hi : input route.shape b.dispatcher.maxBodyBytes r = .error e) :
    ∃ response, (b.dispatcher.dispatch limit route r w).1 = .answered response ∧
      response.body = Envelope.codeBody (shownCode b 400) := by
  have hd := b.dispatcher.dispatch_of_input_error hi limit w
  rw [hd, reject_fst, encodeError_plain hm hc, code_of_input_error hi]
  exact ⟨.ofEncoded ⟨200, .json, Envelope.codeBody (shownCode b 400)⟩, by rw [Except.map, outcome], by
    rw [Response.ofEncoded]⟩

lemma FailsWith.answered (hm : b.mapper = none) (hc : b.codecs = .new)
    (hf : b.dispatcher.FailsWith limit route r w own) :
    ∃ response, (b.dispatcher.dispatch limit route r w).1 = .answered response ∧
      response.body = Envelope.codeBody (shownCode b own) := by
  cases hf with
  | refused hi => exact answered_of_refusal hm hc hi
  | failed hh => exact answered_of_error hm hc hh rfl
  | panicked hh =>
    have hcode : Operation.panicked.code = 500 := rfl
    rw [← hcode]
    exact answered_of_error hm hc hh rfl
  | @unconverted reply f _ hh hv =>
    have hs : b.dispatcher.encoder.successEnvelope reply = .error f := by
      rw [Encoder.successEnvelope, hv]
      rfl
    obtain ⟨response, ho, hbody⟩ :=
      answered_of_result hh rfl (Encoder.encodeSuccess_of_error hs r.headers)
    refine ⟨response, ho, ?_⟩
    rw [hbody, shownCode, if_neg (by decide), Envelope.codeBody]
    rfl

/-- Without a rule of the host's, and with the built-in codec only, a failed request shows the code of
its failure, or the configured one if that is zero. Under a valid configuration it is therefore told
from a success whenever its own code is. -/
theorem failure_shows_code (b : Builder) (hb : Config.violations b.config = [])
    (hm : b.mapper = none) (hc : b.codecs = .new) (limit : Instant) (route : Route) (r : Request)
    (w : World) {own : Int32} (hf : b.dispatcher.FailsWith limit route r w own) :
    ∃ response, (b.dispatcher.dispatch limit route r w).1 = .answered response ∧
      (∀ code, Envelope.Shows response.body code ↔
        code = if own = 0 then b.config.responses.fallbackErrorCode else own) ∧
      (own ≠ b.config.responses.successCode →
        ¬ Envelope.Shows response.body b.config.responses.successCode) := by
  obtain ⟨response, hr, hbody⟩ := hf.answered hm hc
  have hshows : ∀ code, Envelope.Shows response.body code ↔ code = shownCode b own := by
    intro code
    rw [hbody, Envelope.codeBody, Envelope.shows_iff]
    rfl
  refine ⟨response, hr, hshows, fun hne hs => ?_⟩
  have hcode := (hshows _).mp hs
  simp only [shownCode] at hcode
  split at hcode
  · exact Config.fallback_ne_success hb hcode.symm
  · exact hne hcode.symm

def greeting (handler : Handler) : Route := ⟨"/Greeter/Hello", .any, handler⟩

lemma handled_posted {c : Config} (hc : c.server = {}) (handler : Handler) : ∃ k x,
    (Builder.new c).dispatcher.handled? 9 (greeting handler) Service.posted (.start 0 .discard) =
      some ((handler k (.object [])).run k 9 x) := by
  obtain ⟨server, o, rs⟩ := c
  obtain rfl : server = {} := hc
  have ht : (World.start 0 .discard).issue.2.after? 10 = some 10000 := rfl
  have hv : input .any 4194304 Service.posted = .ok (.object []) := rfl
  rw [handled?, started?_eq hv ht rfl]
  exact ⟨_, _, rfl⟩

theorem failure_shows_code_quota :
    let e : ServiceError := ⟨40301, "QUOTA", "quota exhausted", .empty⟩
    let route := greeting fun _ _ => .fail e
    let b := Builder.new {}
    let w := World.start 0 .discard
    (Config.violations b.config = [] ∧ b.mapper = none ∧ b.codecs = .new ∧
      b.dispatcher.FailsWith 9 route Service.posted w 40301) ∧
    ∃ response, (b.dispatcher.dispatch 9 route Service.posted w).1 = .answered response ∧
      (∀ code, Envelope.Shows response.body code ↔ code = 40301) ∧
      ¬ Envelope.Shows response.body 200 := by
  intro e route b w
  obtain ⟨k, x, hh⟩ := handled_posted (c := {}) rfl fun _ _ => .fail e
  have hf : b.dispatcher.FailsWith 9 route Service.posted w 40301 := .failed hh
  obtain ⟨response, hr, hs, hne⟩ := failure_shows_code b Config.violations_default rfl rfl 9 route
    Service.posted w hf
  exact ⟨⟨Config.violations_default, rfl, rfl, hf⟩, response, hr, hs, hne (by decide)⟩

def Masks (c : Config) (route : Route) (r : Request) : Prop :=
  let b := (Builder.new c).route ⟨"POST", "/", route⟩
  Config.violations c = [] ∧
    (∃ s, b.build = .ok s ∧ s.destination r.method r.uri.path = .route route) ∧
    ∃ own response, b.dispatcher.FailsWith 9 route r (.start 0 .discard) own ∧
      (b.dispatcher.dispatch 9 route r (.start 0 .discard)).1 = .answered response ∧
      Envelope.Shows response.body c.responses.successCode

lemma masks_of_fails {c : Config} (hc : Config.violations c = []) {route : Route} {r : Request}
    (hm : r.method = "POST") (hp : r.uri.path = "/")
    (hf : (Builder.new c).dispatcher.FailsWith 9 route r (.start 0 .discard) c.responses.successCode)
    (hne : c.responses.successCode ≠ 0) : Masks c route r := by
  obtain ⟨response, hr, hbody⟩ := hf.answered rfl rfl
  refine ⟨hc, ?_, c.responses.successCode, response, hf, hr, ?_⟩
  · rw [hm, hp]
    exact Service.build_root c route
  · rw [hbody, shownCode, if_neg hne]
    exact (Envelope.shows_iff _ _).mpr rfl

/-- A failure masks itself with its own code; refused inputs, panics and replies without a value do so
where a success has the code that is fixed for them. -/
theorem failures_masked :
    let unread : Request := { Service.posted with body := [0x7b] }
    let c400 : Config := { responses := { successCode := 400 } }
    let c500 : Config := { responses := { successCode := 500, fallbackErrorCode := 501 } }
    Masks {} (greeting fun _ _ => .fail ⟨200, "REFUSED", "not today", .empty⟩) Service.posted ∧
      Masks c400 (greeting fun _ v => .reply (.document v)) unread ∧
      Masks c500 (greeting fun _ _ => .panic (.text "burst")) Service.posted ∧
      Masks c500 (greeting fun _ _ => .reply (.message (.table [(.other, .null)])))
        Service.posted := by
  intro unread c400 c500
  refine ⟨?_, ?_, ?_, ?_⟩
  · obtain ⟨k, x, hh⟩ := handled_posted (c := {}) rfl fun _ _ =>
      .fail ⟨200, "REFUSED", "not today", .empty⟩
    exact masks_of_fails Config.violations_default rfl rfl (.failed hh) (by decide)
  · have hb : (0x7b : UInt8) ∈ unread.body := by decide
    have hu : RequestShape.any.Unreadable 4194304 unread := .body hb (by decide) rfl
    obtain ⟨e, he⟩ := input_of_unreadable hu
    exact masks_of_fails (by decide) rfl rfl (.refused he) (by decide)
  · obtain ⟨k, x, hh⟩ := handled_posted (c := c500) rfl fun _ _ => .panic (.text "burst")
    exact masks_of_fails (by decide) rfl rfl (.panicked hh) (by decide)
  · obtain ⟨k, x, hh⟩ := handled_posted (c := c500) rfl fun _ _ =>
      .reply (.message (.table [(.other, .null)]))
    exact masks_of_fails (by decide) rfl rfl (.unconverted hh rfl) (by decide)

end Http.Dispatcher

end RpcServer
