import RpcServer.Proofs.FailureCodes
import RpcServer.Proofs.JsonReading

/-! Envelopes and their texts. What is printed is read back, and so is what was read before. -/

namespace RpcServer.Reply.Envelope

open Json

def text (code : Int32) (message : Option String) (data : Option (List Char)) : List Char :=
  "\x7b\"code\":".toList ++ (toString code.toInt).toList ++
    (message.elim [] fun s => ",\"message\":".toList ++ renderString s) ++
    (data.elim [] fun s => ",\"data\":".toList ++ s) ++ ['\x7d']

lemma render_text (e : Envelope) : e.render = text e.code e.message (e.data.map Json.render) := by
  have hc : "\x7b\"code\":".toList = '\x7b' :: (renderString "code" ++ [':']) := by decide
  have hm : ",\"message\":".toList = ',' :: (renderString "message" ++ [':']) := by decide
  have hd : ",\"data\":".toList = ',' :: (renderString "data" ++ [':']) := by decide
  have hf : fieldsText e.fields =
      (e.message.elim [] fun s => ",\"message\":".toList ++ renderString s) ++
        (e.data.map Json.render).elim [] fun s => ",\"data\":".toList ++ s := by
    rw [hm, hd, fields]
    cases e.message <;> cases e.data <;> simp [fieldsText, render_string]
  unfold text
  rw [render_eq, render_int, hf, hc]
  simp only [List.append_assoc, List.cons_append, List.nil_append]

def present : Option Json → Option Json
  | some .null => none
  | data => data

lemma present_some {v : Json} (h : v ≠ .null) : present (some v) = some v := by
  cases v <;> first | rfl | contradiction

section Fields

variable {d : ℕ} {n : Node}

lemma number_of_value? {x : Number} (h : n.value? d = some (.number x)) : n = .number (some x) := by
  cases n with
  | number y =>
    obtain ⟨y, rfl, hy⟩ := Option.map_eq_some_iff.mp h
    rw [Json.number.inj hy]
  | null | bool | string => simp [Node.value?] at h
  | array | object => cases d <;> simp [Node.value?] at h

lemma string_of_value? {s : String} (h : n.value? d = some (.string s)) : n = .string (some s) := by
  cases n with
  | string t =>
    obtain ⟨t, rfl, ht⟩ := Option.map_eq_some_iff.mp h
    rw [Json.string.inj ht]
  | null | bool | number => simp [Node.value?] at h
  | array | object => cases d <;> simp [Node.value?] at h

lemma isNull_of_value? {v : Json} (h : n.value? d = some v) : n.isNull = true ↔ v = .null := by
  cases n with
  | null =>
    obtain rfl := Option.some.inj h
    exact iff_of_true rfl rfl
  | bool | number | string =>
    refine iff_of_false Bool.false_ne_true ?_
    rintro rfl
    simp [Node.value?] at h
  | array | object =>
    refine iff_of_false Bool.false_ne_true ?_
    rintro rfl
    cases d <;> simp [Node.value?] at h

lemma code?_of_value? {c : Int32} (h : n.value? d = some (.int c.toInt)) :
    code? (some n) = some c := by
  have hlo : -Int.pow 2 31 ≤ c.toInt := c.le_toInt
  have hhi : c.toInt ≤ Int.pow 2 31 - 1 := Int.le_sub_one_of_lt c.toInt_lt
  rw [number_of_value? h, code?, Option.bind_some, Node.int?, if_pos ⟨hlo, hhi⟩, Option.map_some,
    Int32.ofInt_toInt]

lemma optional_of_value? {v : Json} (h : n.value? d = some v) :
    optional (Node.value? d) (some n) = some (present (some v)) := by
  rw [optional]
  split
  · next hn =>
    rw [(isNull_of_value? h).mp hn]
    rfl
  · next hn => rw [h, present_some (mt (isNull_of_value? h).mpr hn), Option.map_some]

lemma optional_of_string {s : String} (h : n.value? d = some (.string s)) :
    optional Node.text? (some n) = some (some s) := by
  rw [string_of_value? h]
  rfl

lemma ofNode?_of_record? {c m v : Option Node} {code : Int32} {message : Option String}
    {data : Option Json} (hn : n.record? ["code", "message", "data"] = some [c, m, v])
    (hc : code? c = some code) (hm : optional Node.text? m = some message)
    (hv : optional (Node.value? 126) v = some data) : ofNode? n = some ⟨code, message, data⟩ := by
  have hd : Node.maxDepth - 1 = 126 := rfl
  simp [ofNode?, hn, hc, hm, hd, hv]

end Fields

lemma reads_fields {e : Envelope} (he : ∀ v, e.data = some v → v.Fits 126 ∧ v.Integral) :
    ∀ f ∈ ("code", Json.int e.code.toInt) :: e.fields, Reads 126 f.2 := by
  have hlo : lowest ≤ e.code.toInt := le_trans (by decide) e.code.le_toInt
  have hhi : e.code.toInt ≤ highest := le_trans e.code.toInt_lt.le (by decide)
  intro f hf
  rcases List.mem_cons.mp hf with rfl | hf
  · exact (Fits.number _).reads (.int hlo hhi)
  rcases List.mem_append.mp hf with hf | hf
  · obtain ⟨s, -, rfl⟩ := Option.map_eq_some_iff.mp (Option.mem_toList.mp hf)
    exact (Fits.string s).reads (.string s)
  · obtain ⟨v, hv, rfl⟩ := Option.map_eq_some_iff.mp (Option.mem_toList.mp hf)
    exact (he v hv).1.reads (he v hv).2

lemma ofText?_render {e : Envelope} (he : ∀ v, e.data = some v → v.Fits 126 ∧ v.Integral) :
    ofText? e.render = some { e with data := present e.data } := by
  obtain ⟨ts, ms, hl, hm, hf⟩ := reads_members (reads_fields he)
  have hrender : e.render = (object (("code", Json.int e.code.toInt) :: e.fields)).render := rfl
  have hnode : Node.ofText? (e.render.map some) = some (.object ms) := by
    rw [Node.ofText?, hrender, tokens?_of_lexes hl, Option.bind_some, Node.ofTokens?, hm []]
    rfl
  rw [ofText?, hnode, Option.bind_some]
  obtain ⟨code, message, data⟩ := e
  cases message <;> cases data <;>
    simp only [fields, Option.map_none, Option.map_some, Option.toList_none, Option.toList_some,
      List.append_nil, List.nil_append, List.cons_append, List.forall₂_cons_left_iff,
      List.forall₂_nil_left_iff] at hf
  · obtain ⟨⟨_, n⟩, _, ⟨rfl, hn⟩, rfl, rfl⟩ := hf
    exact ofNode?_of_record? rfl (code?_of_value? hn) rfl rfl
  · obtain ⟨⟨_, n⟩, _, ⟨rfl, hn⟩, ⟨⟨_, k⟩, _, ⟨rfl, hk⟩, rfl, rfl⟩, rfl⟩ := hf
    exact ofNode?_of_record? rfl (code?_of_value? hn) rfl
      (optional_of_value? hk)
  · obtain ⟨⟨_, n⟩, _, ⟨rfl, hn⟩, ⟨⟨_, k⟩, _, ⟨rfl, hk⟩, rfl, rfl⟩, rfl⟩ := hf
    exact ofNode?_of_record? rfl (code?_of_value? hn)
      (optional_of_string hk) rfl
  · obtain ⟨⟨_, n⟩, _, ⟨rfl, hn⟩, ⟨⟨_, k⟩, _, ⟨rfl, hk⟩, ⟨⟨_, l⟩, _, ⟨rfl, hl⟩, rfl, rfl⟩, rfl⟩,
      rfl⟩ := hf
    exact ofNode?_of_record? rfl (code?_of_value? hn)
      (optional_of_string hk) (optional_of_value? hl)

lemma of_optional {d : ℕ} {v : Option Node} {data : Json}
    (h : optional (Node.value? d) v = some (some data)) : data.Fits d ∧ data ≠ .null := by
  cases v with
  | none => cases h
  | some n =>
    rw [optional] at h
    split at h
    · cases h
    · next hn =>
      obtain ⟨_, hv, hu⟩ := Option.map_eq_some_iff.mp h
      obtain rfl := Option.some.inj hu
      exact ⟨Node.fits_of_value? n hv, mt (isNull_of_value? hv).mpr hn⟩

lemma fits_of_ofText? {t : List Char} {e : Envelope} (h : ofText? t = some e) {v : Json}
    (hv : e.data = some v) : v.Fits 126 ∧ v ≠ .null := by
  obtain ⟨n, -, hn⟩ := Option.bind_eq_some_iff.mp h
  rw [ofNode?] at hn
  split at hn
  · next c m data _ =>
    obtain ⟨_, -, hn⟩ := Option.bind_eq_some_iff.mp hn
    obtain ⟨_, -, hn⟩ := Option.bind_eq_some_iff.mp hn
    obtain ⟨data, hd, hn⟩ := Option.bind_eq_some_iff.mp hn
    obtain rfl := Option.some.inj hn
    obtain rfl : data = some v := hv
    exact of_optional hd
  · cases hn

/-- An envelope whose numbers are whole is read back from its text, in which there is no absent field.
So is one that was itself read from some text, whatever that text looked like. -/
theorem round_trip :
    (∀ e : Envelope, (∀ v, e.data = some v → v.Fits 126 ∧ v.Integral) →
      e.render = text e.code e.message (e.data.map Json.render) ∧
        ofText? e.render = some { e with data := present e.data }) ∧
    ∀ (t : List Char) (e : Envelope), ofText? t = some e →
      (∀ v, e.data = some v → v.Integral) → ofText? e.render = some e := by
  refine ⟨fun e he => ⟨render_text e, ofText?_render he⟩, fun t e ht hi => ?_⟩
  have hf : ∀ v, e.data = some v → v.Fits 126 ∧ v ≠ .null := fun v hv => fits_of_ofText? ht hv
  have hp : present e.data = e.data := by
    cases hd : e.data with
    | none => rfl
    | some v => exact present_some (hf v hd).2
  rw [ofText?_render fun v hv => ⟨(hf v hv).1, hi v hv⟩, hp]

def sample : Json :=
  .object [("", .array [.int lowest, .null, .object []]), ("a\"\n", .int highest)]

lemma sample_fits : sample.Fits 126 := by
  have hitems : ∀ v ∈ [Json.int lowest, .null, .object []], v.Fits 124 := by
    simp only [List.forall_mem_cons]
    exact ⟨.number _, .null, .object .nil (by simp), by simp⟩
  refine .object (by decide) ?_
  simp only [List.forall_mem_cons]
  exact ⟨.array hitems, .number _, by simp⟩

lemma sample_integral : sample.Integral := by
  have hitems : ∀ v ∈ [Json.int lowest, .null, .object []], v.Integral := by
    simp only [List.forall_mem_cons]
    exact ⟨.int le_rfl (by decide), .null, .object (by simp), by simp⟩
  refine .object ?_
  simp only [List.forall_mem_cons]
  exact ⟨.array hitems, .int (by decide) le_rfl, by simp⟩

theorem round_trip_sample :
    let e : Envelope := ⟨-7, some "\x01", some sample⟩
    let spaced := (" \x7b \"data\": \x7b\"\": [-9223372036854775808, null, \x7b\x7d], " ++
      "\"\\u0061\\\"\\n\": 18446744073709551615\x7d, \"message\": \"\\u0001\", " ++
      "\"x\": false, \"code\": -7 \x7d").toList
    ((∀ v, e.data = some v → v.Fits 126 ∧ v.Integral) ∧
      e.render = ("\x7b\"code\":-7,\"message\":\"\\u0001\",\"data\":\x7b\"\":[" ++
        "-9223372036854775808,null,\x7b\x7d],\"a\\\"\\n\":18446744073709551615\x7d\x7d").toList ∧
      ofText? e.render = some e) ∧
    ofText? spaced = some e ∧ (∀ v, e.data = some v → v.Integral) ∧ ofText? e.render = some e := by
  intro e spaced
  have he : ∀ v, e.data = some v → v.Fits 126 ∧ v.Integral := by
    intro v hv
    obtain rfl : sample = v := Option.some.inj hv
    exact ⟨sample_fits, sample_integral⟩
  have htokens : tokens? (spaced.map some) = some [.openObject, .string (some "data"), .colon,
      .openObject, .string (some ""), .colon, .openArray, .number (some (.integer lowest)), .comma,
      .null, .comma, .openObject, .closeObject, .closeArray, .comma, .string (some "a\"\n"), .colon,
      .number (some (.integer highest)), .closeObject, .comma, .string (some "message"), .colon,
      .string (some "\x01"), .comma, .string (some "x"), .colon, .bool false, .comma,
      .string (some "code"), .colon, .number (some (.integer (-7))), .closeObject] := by
    decide +kernel
  have hspaced : ofText? spaced = some e := by
    rw [ofText?, Node.ofText?, htokens]
    rfl
  have hi : ∀ v, e.data = some v → v.Integral := fun v hv => (he v hv).2
  refine ⟨⟨he, ?_, (round_trip.1 e he).2⟩, hspaced, hi, round_trip.2 spaced e hspaced hi⟩
  rw [(round_trip.1 e he).1]
  decide +kernel

end RpcServer.Reply.Envelope
