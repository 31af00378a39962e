import RpcServer.Proofs.DataEncoding
import RpcServer.Proofs.EnvelopeReading
import RpcServer.Proofs.Meters

/-! What caller, metrics and log see of a reply. Metrics and log see the wire form of a message, the
caller the text of its value, which is another for data that is not plain. A reply that is no message
is only seen in the log. -/

namespace RpcServer

open Text

def Payload.Plain : Payload → Prop
  | .message d => d.Plain
  | _ => True

lemma Payload.wire?_of_value? {p : Payload} {v : Json} (h : p.value? = some (.ok v)) :
    ∃ s, p.wire? = some (.ok s) ∧ (s = v.render ↔ p.Plain) := by
  cases p with
  | value u | document u =>
    obtain rfl : u = v := Except.ok.inj (Option.some.inj h)
    exact ⟨_, rfl, iff_of_true rfl trivial⟩
  | message d =>
    obtain ⟨s, hs, hp⟩ := Data.wire_of_value (Option.some.inj h)
    exact ⟨s, congrArg some hs, hp⟩
  | unit | string | literal | bytes | inspected => cases h

namespace Reply

variable {r : Encoder} {h : Headers}

lemma Encoder.encodeSuccess_json (hj : r.codecs.forRequest h = .json) {p : Payload}
    (data : Option Json) (hp : p.value? = data.map .ok) :
    r.encodeSuccess h p =
      .ok (⟨200, .json, Utf8.encode
        (Envelope.text r.successCode r.successMessage (data.map Json.render))⟩, []) := by
  have hv : r.successEnvelope p = .ok (.success r.successCode r.successMessage data) := by
    rw [successEnvelope, hp]
    cases data <;> rfl
  have he : (Envelope.success r.successCode r.successMessage data).render =
      Envelope.text r.successCode r.successMessage (data.map Json.render) := Envelope.render_text _
  rw [← he, ← encode_json hj, encodeSuccess, hv]

end Reply

lemma Log.bounded_eq (limit : ℕ) (s : List Char) :
    bounded limit s = if Utf8.size s ≤ limit then s else tooLarge (Utf8.size s) := by
  simp only [bounded, ← Nat.not_le, ite_not]

def Log.Event.field? (name : String) (e : Log.Event) : Option Log.Field :=
  (e.fields.find? (·.1 = name)).map (·.2)

namespace Metrics

def Recording.reply? : Recording → Option (Labels × Nat)
  | .responseSize m op n => some ([m, op], n)
  | _ => none

lemma Store.responseSizes_foldl (rs : List Recording) (s : Store) :
    (rs.foldl record s).responseSizes = (rs.filterMap Recording.reply?).foldl
      (fun d e => d.update e.1 .empty (·.record (.ofNat e.2))) s.responseSizes := by
  induction rs generalizing s with
  | nil => rfl
  | cons r rs ih =>
    rw [List.foldl_cons, ih]
    cases r <;> rfl

end Metrics

namespace Tracer

def replies (es : List Effect) : List (Metrics.Labels × Nat) :=
  (es.filterMap Effect.recording?).filterMap Metrics.Recording.reply?

def outer (es : List Effect) : List Log.Event :=
  (es.filterMap Effect.event?).filter fun e => e.span.isNone

variable {tr : Tracer}

lemma replies_append (es fs : List Effect) : replies (es ++ fs) = replies es ++ replies fs := by
  simp [replies]

lemma outer_append (es fs : List Effect) : outer (es ++ fs) = outer es ++ outer fs := by
  simp [outer]

lemma replies_measured (rs : List Metrics.Recording) :
    replies (tr.measured rs) =
      if tr.measures then rs.filterMap Metrics.Recording.reply? else [] := by
  simp only [replies, measured]
  split
  · rw [Effect.recordings_recorded]
  · rfl

lemma outer_measured (rs : List Metrics.Recording) : outer (tr.measured rs) = [] := by
  simp only [outer, measured]
  split <;> simp [Effect.event?]

lemma replies_of_handler {c : Context} {s : Option Log.Span} {es : List Effect}
    (h : ∀ e ∈ es, e.OfHandler c s) : replies es = [] := by
  rw [replies, Effect.recordings_of_handler h]
  rfl

lemma outer_of_handler {c : Context} {s : Log.Span} {es : List Effect}
    (h : ∀ e ∈ es, e.OfHandler c (some s)) : outer es = [] := by
  rw [outer, List.filter_eq_nil_iff]
  intro e he
  obtain ⟨f, hf, hef⟩ := List.mem_filterMap.mp he
  cases f with
  | logged g =>
    have hg : g.span = some s := h _ hf
    rw [← Option.some.inj hef, hg]
    exact Bool.false_ne_true
  | recorded | wrote | invoked => cases hef

lemma responseSizes_of_emits {x y : Exchange} {es : List Effect} (h : x.Emits es y)
    {s : Metrics.Store} (hs : x.world.sink = .memory s) :
    ∃ t, y.world.sink = .memory t ∧ t.responseSizes = (replies es).foldl
      (fun d e => d.update e.1 .empty (·.record (.ofNat e.2))) s.responseSizes := by
  refine ⟨(es.filterMap Effect.recording?).foldl Metrics.Store.record s, ?_,
    Metrics.Store.responseSizes_foldl _ s⟩
  rw [h.sink, hs, Metrics.Sink.record_memory]

lemma replies_opening (k : Call) (request : Payload) :
    replies (tr.opening k request none) = [] := by
  have ho : tr.opening k request none =
      [.logged { tr.received k.transport request with span := none }] ++ tr.measured _ := rfl
  rw [ho, replies_append, replies_measured]
  cases Log.wireSize? request <;> simp [replies, Effect.recording?, Metrics.Recording.reply?]

lemma outer_opening (k : Call) (request : Payload) :
    outer (tr.opening k request none) = [tr.received k.transport request] := by
  have ho : tr.opening k request none =
      [.logged { tr.received k.transport request with span := none }] ++ tr.measured _ := rfl
  rw [ho, outer_append, outer_measured]
  rfl

lemma replies_closing (k : Call) (y : Exchange) (p : Payload) :
    replies (tr.closing k y (.returned (.ok p))) =
      (if tr.measures then (Log.wireSize? p).toList else []).map
        (([k.transport.method, k.transport.operation], ·)) := by
  have ha : replies (annotations k.identity p.isMessage) = [] := by
    cases p.isMessage <;> rfl
  rw [closing, ← List.singleton_append, replies_append, replies_append, ha, replies_measured]
  cases tr.measures <;> cases Log.wireSize? p <;> rfl

lemma outer_closing (k : Call) (y : Exchange) (p : Payload) :
    outer (tr.closing k y (.returned (.ok p))) =
      [tr.completed k.transport (.ok p) y.reply.fields] := by
  have ha : outer (annotations k.identity p.isMessage) = [] := by
    cases p.isMessage <;> rfl
  rw [closing, ← List.singleton_append, outer_append, outer_append, ha, outer_measured]
  rfl

end Tracer

namespace Http.Dispatcher

open Reply Metrics

/-- How a reply shows: the caller is sent the bytes `body`, `size` is recorded if there is one, and the
last of the two events around the handler's own has the field `logged`. -/
structure Shows (d : Dispatcher) (limit : Instant) (route : Route) (r : Request) (w : World)
    (body : List UInt8) (size : Option ℕ) (logged : List Char) : Prop where
  answered : ∃ response, (d.dispatch limit route r w).1 = .answered response ∧
    (response.framed r.method).body = body
  observed : ∃ es first last, (d.dispatch limit route r w).2.trace = w.trace ++ es ∧
    Tracer.replies es = (if d.tracer.measures then size.toList else []).map
      (([r.method, route.operation], ·)) ∧
    Tracer.outer es = [first, last] ∧ first.message = "request received" ∧
    last.message = "request completed" ∧
    last.field? "body" = some (.shown (String.ofList logged))
  stored : ∀ s, w.sink = .memory s → ∃ t, (d.dispatch limit route r w).2.sink = .memory t ∧
    t.responseSizes = (if d.tracer.measures then size.toList else []).foldl
      (fun sizes n => sizes.update [r.method, route.operation] .empty (·.record (.ofNat n)))
      s.responseSizes

def carried (method : String) (s : List Char) : List UInt8 :=
  if method = "HEAD" ∨ method = "CONNECT" then [] else Utf8.encode s

variable {d : Dispatcher} {limit : Instant} {route : Route} {r : Request} {w : World}
  {p : Payload} {y : Exchange} {body : List Char}

lemma framed_carried {response : Response} (hs : response.isSuccess = true)
    (hb : response.body = Utf8.encode body) (method : String) :
    (response.framed method).body = carried method body := by
  rw [Response.framed, carried]
  by_cases hc : method = "CONNECT"
  · rw [if_pos ⟨hc, hs⟩, if_pos (.inr hc)]
    rfl
  · have hd : ∀ s, (response.default .contentLength s).body = response.body := by
      intro s
      rw [Response.default]
      split <;> rfl
    rw [if_neg fun h => hc h.1]
    by_cases hh : method = "HEAD"
    · simp only [hh, ↓reduceIte, true_or]
      rfl
    · simp only [hh, hc, ↓reduceIte, or_self, hd, hb]

lemma emits_of_handled {k : Tracer.Call} {v : Json} {x : Exchange} {h : Halt}
    (hs : d.started? route r w = some (k, .document v, x))
    (hr : (route.handler k.context v).run k.context limit (Operation.called k.context v x) = (h, y))
    (result : Halt) : ∃ own, (∀ e ∈ own, e.OfHandler k.context x.span) ∧
      (Exchange.start w.issue.2).Emits
        (d.tracer.opening k (.document v) none ++ ([.invoked k.context (.document v)] ++ own) ++
          d.tracer.closing k y result) (d.tracer.finish k result y) := by
  obtain ⟨own, ho⟩ := Program.run_handled k.context limit (route.handler k.context v)
    (Operation.called k.context v x)
  rw [hr] at ho
  have hk : k.identity.Legal := started_identity hs ▸ Trace.Identity.ofSpan_legal _
  obtain ⟨_, _, -, -, -, -, -, hx⟩ := started_of hs
  have hb : (Exchange.start w.issue.2).Emits (d.tracer.opening k (.document v) none) x := by
    rw [hx]
    exact Tracer.enter_emits k (.document v) (.start w.issue.2)
  have hi : x.Emits [.invoked k.context (.document v)] (Operation.called k.context v x) :=
    ⟨rfl, rfl, rfl⟩
  exact ⟨own, ho.own, (hb.trans (hi.trans ho.emits)).trans (Tracer.finish_emits hk result y)⟩

lemma shows_of_handled (hh : d.handled? limit route r w = some (.returned (.ok p), y))
    (he : d.encoder.encodeSuccess r.headers p = .ok (⟨200, .json, Utf8.encode body⟩, [])) :
    d.Shows limit route r w (carried r.method body) (Log.wireSize? p)
      (Log.body d.tracer.maxBodyBytes p) := by
  obtain ⟨k, v, x, hs, hr⟩ := handled_of hh
  obtain ⟨own, hown, hz⟩ := emits_of_handled hs hr (.returned (.ok p))
  obtain ⟨_, _, -, -, -, hk, -, hx⟩ := started_of hs
  have ht : k.transport = d.transport route r := by rw [hk, Tracer.Call.start]
  have hspan : x.span = some (Log.callSpan k.transport.operation k.identity.traceId
      k.identity.spanId) := by rw [hx, Tracer.enter]
  -- the reply is observed first, and its encoding leaves nothing behind
  have hd : d.dispatch limit route r w =
      ((d.answer r (.returned (.ok p)) (d.tracer.finish k (.returned (.ok p)) y)).1,
        (d.tracer.finish k (.returned (.ok p)) y).world.cancel w.issue.1) := by
    rw [dispatch_of_ended (ended_of_handled hs hr).1]
    simp only [Operation.recovered, answerEffects, he, encodingEffects, List.map_nil,
      World.after_nil]
  have hreplies : Tracer.replies (d.tracer.opening k (.document v) none ++
      ([.invoked k.context (.document v)] ++ own) ++ d.tracer.closing k y (.returned (.ok p))) =
      (if d.tracer.measures then (Log.wireSize? p).toList else []).map
        (([r.method, route.operation], ·)) := by
    simp only [Tracer.replies_append, Tracer.replies_opening, Tracer.replies_of_handler hown,
      Tracer.replies_closing, ht]
    rfl
  refine ⟨?_, ?_, ?_⟩
  · rw [hd, answer_fst, encoding, he]
    exact ⟨_, rfl, framed_carried (by rfl) (by rfl) r.method⟩
  · refine ⟨_, d.tracer.received k.transport (.document v),
      d.tracer.completed k.transport (.ok p) y.reply.fields, ?_, hreplies, ?_, rfl, rfl, rfl⟩
    · rw [hd]
      exact hz.trace
    · rw [hspan] at hown
      simp only [Tracer.outer_append, Tracer.outer_opening, Tracer.outer_of_handler hown,
        Tracer.outer_closing]
      rfl
  · intro s hw
    obtain ⟨t, hsink, hsizes⟩ := Tracer.responseSizes_of_emits hz hw
    rw [hreplies, List.foldl_map] at hsizes
    refine ⟨t, ?_, hsizes⟩
    rw [hd]
    exact hsink

lemma shows_of_value (hj : d.encoder.codecs.forRequest r.headers = .json)
    (hh : d.handled? limit route r w = some (.returned (.ok p), y)) {v : Json}
    (hv : p.value? = some (.ok v)) : ∃ s, p.wire? = some (.ok s) ∧ (s = v.render ↔ p.Plain) ∧
      d.Shows limit route r w
        (carried r.method
          (Envelope.text d.encoder.successCode d.encoder.successMessage (some v.render)))
        (some (Utf8.size s))
        (if Utf8.size s ≤ d.tracer.maxBodyBytes then s else Log.tooLarge (Utf8.size s)) := by
  obtain ⟨s, hw, hp⟩ := Payload.wire?_of_value? hv
  have hs := shows_of_handled hh (Encoder.encodeSuccess_json hj (some v) hv)
  rw [Log.wireSize?, Log.body, hw] at hs
  refine ⟨s, hw, hp, ?_⟩
  rw [← Log.bounded_eq]
  exact hs

def OneText (d : Dispatcher) (limit : Instant) (route : Route) (r : Request) (w : World)
    (p : Payload) : Prop :=
  ∃ s, p.wire? = some (.ok s) ∧ d.Shows limit route r w
    (Utf8.encode (Envelope.text d.encoder.successCode d.encoder.successMessage (some s)))
    (some (Utf8.size s))
    (if Utf8.size s ≤ d.tracer.maxBodyBytes then s else Log.tooLarge (Utf8.size s))

lemma Shows.body_unique {b c : List UInt8} {m n : Option ℕ} {s t : List Char}
    (h : d.Shows limit route r w b m s) (h' : d.Shows limit route r w c n t) : b = c := by
  obtain ⟨response, ha, rfl⟩ := h.answered
  obtain ⟨response', ha', rfl⟩ := h'.answered
  rw [Outcome.answered.inj (ha.symm.trans ha')]

lemma carried_of_ne {method : String} (h : method ≠ "HEAD") (h' : method ≠ "CONNECT")
    (s : List Char) : carried method s = Utf8.encode s :=
  if_neg (not_or.mpr ⟨h, h'⟩)

lemma text_ne_nil (code : Int32) (message : Option String) (data : Option (List Char)) :
    Utf8.encode (Envelope.text code message data) ≠ [] :=
  fun h => List.cons_ne_nil _ _ (Utf8.encode_injective h)

lemma text_injective {code : Int32} {message : Option String} {s t : List Char}
    (h : Envelope.text code message (some s) = Envelope.text code message (some t)) : s = t := by
  have hc := List.append_cancel_left (List.append_cancel_right h)
  exact List.append_cancel_left hc

lemma oneText_iff (hj : d.encoder.codecs.forRequest r.headers = .json)
    (hh : d.handled? limit route r w = some (.returned (.ok p), y)) {v : Json}
    (hv : p.value? = some (.ok v)) :
    d.OneText limit route r w p ↔ r.method ≠ "HEAD" ∧ r.method ≠ "CONNECT" ∧ p.Plain := by
  obtain ⟨s, hw, hp, hs⟩ := shows_of_value hj hh hv
  constructor
  · rintro ⟨t, ht, hshows⟩
    obtain rfl : s = t := Except.ok.inj (Option.some.inj (hw.symm.trans ht))
    have hbody := hs.body_unique hshows
    obtain ⟨hhead, hconnect⟩ : r.method ≠ "HEAD" ∧ r.method ≠ "CONNECT" := by
      rw [← not_or]
      intro hm
      rw [carried, if_pos hm] at hbody
      exact text_ne_nil _ _ _ hbody.symm
    rw [carried_of_ne hhead hconnect] at hbody
    exact ⟨hhead, hconnect, hp.mp (text_injective (Utf8.encode_injective hbody)).symm⟩
  · rintro ⟨hhead, hconnect, hplain⟩
    rw [carried_of_ne hhead hconnect, ← hp.mpr hplain] at hs
    exact ⟨s, hw, hs⟩

/-- For a reply that has a value, the caller gets the text of the value as data, if the response has
a body at all. The size of the wire form is recorded, and the wire form itself is logged unless it is
too long. It is the text that the caller gets if the reply is plain, and no other is. Of a reply that
is no message nothing but its structural text is seen, in the log. -/
theorem reply_agrees (d : Dispatcher) (limit : Instant) (route : Route) (r : Request) (w : World)
    (hj : d.encoder.codecs.forRequest r.headers = .json) {p : Payload} {y : Exchange}
    (hh : d.handled? limit route r w = some (.returned (.ok p), y)) :
    (∀ v, p.value? = some (.ok v) → ∃ s, p.wire? = some (.ok s) ∧ (s = v.render ↔ p.Plain) ∧
      d.Shows limit route r w
        (carried r.method
          (Envelope.text d.encoder.successCode d.encoder.successMessage (some v.render)))
        (some (Utf8.size s))
        (if Utf8.size s ≤ d.tracer.maxBodyBytes then s else Log.tooLarge (Utf8.size s))) ∧
    (p.isMessage = false →
      d.Shows limit route r w
        (carried r.method
          (Envelope.text d.encoder.successCode d.encoder.successMessage none)) none
        (if Utf8.size p.inspection.render ≤ d.tracer.maxBodyBytes then p.inspection.render
          else Log.tooLarge (Utf8.size p.inspection.render))) := by
  refine ⟨fun v hv => shows_of_value hj hh hv, fun hm => ?_⟩
  obtain ⟨hv, hw⟩ : p.value? = none ∧ p.wire? = none := by
    cases p <;> first | exact ⟨rfl, rfl⟩ | cases hm
  have hs := shows_of_handled hh (Encoder.encodeSuccess_json hj none hv)
  rw [Log.wireSize?, Log.body, hw] at hs
  rw [← Log.bounded_eq]
  exact hs

section Short

def curt : Dispatcher :=
  (Builder.new { observability := { maxLogBodyBytes := 4 } }).dispatcher

def answering (p : Payload) : Route := greeting fun _ _ => .reply p

lemma curt_json (method : String) :
    curt.encoder.codecs.forRequest { Service.posted with method := method }.headers = .json :=
  Codecs.forRequest_new _

lemma curt_handled (p : Payload) (method : String) : ∃ y,
    curt.handled? 9 (answering p) { Service.posted with method := method }
      (.start 0 (.memory .empty)) = some (.returned (.ok p), y) := by
  have ht : (World.start 0 (.memory .empty)).issue.2.after? 10 = some 10000 := rfl
  have hv : input (answering p).shape curt.maxBodyBytes
      { Service.posted with method := method } = .ok (.object []) := rfl
  rw [handled?, started?_eq hv ht rfl]
  exact ⟨_, rfl⟩

theorem reply_agrees_short :
    let w := World.start 0 (.memory .empty)
    let table : Payload := .message (.table [(.integer (-7), .binary .nan)])
    (curt.encoder.codecs.forRequest Service.posted.headers = .json ∧
      ∀ p, ∃ y, curt.handled? 9 (answering p) Service.posted w = some (.returned (.ok p), y)) ∧
    curt.Shows 9 (answering table) Service.posted w
      (Utf8.encode "\x7b\"code\":200,\"message\":\"success\",\"data\":\x7b\"-7\":null\x7d\x7d".toList)
      (some 11) "<body too large, size: 11 bytes>".toList ∧
    curt.Shows 9 (answering (.string "hi")) Service.posted w
      (Utf8.encode "\x7b\"code\":200,\"message\":\"success\"\x7d".toList) none
      "\"hi\"".toList := by
  intro w table
  have hj := curt_json "POST"
  have hh := fun p => curt_handled p "POST"
  refine ⟨⟨hj, hh⟩, ?_, ?_⟩
  · obtain ⟨y, hy⟩ := hh table
    obtain ⟨s, hs, -, hshows⟩ :=
      (reply_agrees curt 9 (answering table) Service.posted w hj hy).1 _ rfl
    have hw : table.wire? = some (.ok "\x7b\"-7\":null\x7d".toList) := by rfl
    obtain rfl := Except.ok.inj (Option.some.inj (hs.symm.trans hw))
    have hbody : Envelope.text 200 "success" (some "\x7b\"-7\":null\x7d".toList) =
        "\x7b\"code\":200,\"message\":\"success\",\"data\":\x7b\"-7\":null\x7d\x7d".toList := by
      decide
    have hsize : Utf8.size "\x7b\"-7\":null\x7d".toList = 11 := by decide
    have hlog : Log.tooLarge 11 = "<body too large, size: 11 bytes>".toList := by decide
    rw [hsize, if_neg (by decide), hlog] at hshows
    rw [← hbody]
    exact hshows
  · obtain ⟨y, hy⟩ := hh (.string "hi")
    have hshows := (reply_agrees curt 9 (answering (.string "hi")) Service.posted w hj hy).2 rfl
    have hbody : Envelope.text 200 "success" none =
        "\x7b\"code\":200,\"message\":\"success\"\x7d".toList := by decide
    have htext : (Payload.string "hi").inspection.render = "\"hi\"".toList := by decide
    rw [htext, if_pos (by decide)] at hshows
    rw [← hbody]
    exact hshows

/-- A tenth has more digits as a number of 64 bits, a name given twice is in the value once, and the
answer to HEAD has no body: in none of the three is the wire form the data that is sent. -/
theorem reply_sides_differ :
    let w := World.start 0 (.memory .empty)
    let posted (method : String) : Request := { Service.posted with method := method }
    let tenth : Payload := .message (.single ⟨0x3dcccccd⟩)
    let twice : Payload := .message (.table [(.text "a", .integer 1), (.text "a", .integer 2)])
    let seven : Payload := .message (.integer 7)
    (∀ method, curt.encoder.codecs.forRequest (posted method).headers = .json ∧
      ∀ p, ∃ y, curt.handled? 9 (answering p) (posted method) w = some (.returned (.ok p), y)) ∧
    (∃ v, tenth.value? = some (.ok v) ∧
      ¬ curt.OneText 9 (answering tenth) (posted "POST") w tenth) ∧
    (∃ v, twice.value? = some (.ok v) ∧
      ¬ curt.OneText 9 (answering twice) (posted "POST") w twice) ∧
    (∃ v, seven.value? = some (.ok v) ∧
      ¬ curt.OneText 9 (answering seven) (posted "HEAD") w seven) := by
  intro w posted tenth twice seven
  have differ : ∀ (p : Payload) (method : String) (v : Json), p.value? = some (.ok v) →
      ¬ (method ≠ "HEAD" ∧ method ≠ "CONNECT" ∧ p.Plain) →
      ∃ v, p.value? = some (.ok v) ∧ ¬ curt.OneText 9 (answering p) (posted method) w p := by
    intro p method v hv hne
    obtain ⟨y, hy⟩ := curt_handled p method
    exact ⟨v, hv, fun h => hne ((oneText_iff (curt_json method) hy hv).mp h)⟩
  refine ⟨fun method => ⟨curt_json method, fun p => curt_handled p method⟩, ?_, ?_, ?_⟩
  · refine differ tenth "POST" _ rfl fun h => ?_
    have hs : Data.singleText ⟨0x3dcccccd⟩ ≠ (Data.ofSingle ⟨0x3dcccccd⟩).render := by
      decide +kernel
    exact hs (Data.plain_single.mp h.2.2)
  · refine differ twice "POST" _ rfl fun h => ?_
    have hn := (Data.plain_table.mp h.2.2).1
    exact absurd hn (by simp [Data.Key.name])
  · exact differ seven "HEAD" _ rfl fun h => h.1 rfl

end Short

end Http.Dispatcher

end RpcServer
