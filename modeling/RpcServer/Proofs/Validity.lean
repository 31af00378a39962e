import Mathlib.Data.List.Pairwise
import Mathlib.Tactic.Lemma
import RpcServer.Config.Loader

/-! Valid configurations. Validation lists exactly the rules that a configuration breaks, in the order of
the fields, and who mends what is listed, and nothing else, is left with a valid configuration. -/

namespace RpcServer.Config

structure Rule where
  broken : Bool
  violation : Violation

namespace Rule

def address (field address : String) : Rule :=
  ⟨!isSocketAddress address, field, "'" ++ address ++ "' is not a socket address"⟩

def aboveZero (field : String) (n : Nat) : Rule := ⟨n = 0, field, "must be greater than 0"⟩

def positive (field : String) (code : Int32) : Rule := ⟨code ≤ 0, field, "must be positive"⟩

def unused (field : String) (code : Int32) (earlier : List Int32) : Rule :=
  ⟨code ∈ earlier, field, "code " ++ toString code.toInt ++ " is already in use"⟩

def violations (rs : List Rule) : List Violation := (rs.filter (·.broken)).map (·.violation)

variable {r : Rule} {rs ss : List Rule}

lemma violations_nil : violations [] = [] := rfl

lemma violations_append : violations (rs ++ ss) = violations rs ++ violations ss := by
  rw [violations, List.filter_append, List.map_append, violations, violations]

lemma violations_cons :
    violations (r :: rs) = (if r.broken then [r.violation] else []) ++ violations rs := by
  rw [violations, List.filter_cons]
  cases r.broken <;> rfl

lemma violations_eq_nil_iff : violations rs = [] ↔ ∀ r ∈ rs, r.broken = false := by
  simp only [violations, List.map_eq_nil_iff, List.filter_eq_nil_iff, Bool.not_eq_true]

end Rule

def serverRules (s : Server) : List Rule :=
  [.address "server.bind_address" s.bindAddress,
    .aboveZero "server.request_timeout_secs" s.requestTimeoutSecs,
    .aboveZero "server.max_body_bytes" s.maxBodyBytes]

def observabilityRules (o : Observability) : List Rule :=
  (if o.metricsEnabled then [.address "observability.metrics_address" o.metricsAddress] else []) ++
    [.aboveZero "observability.max_log_body_bytes" o.maxLogBodyBytes]

def codeRules (r : Responses) : List Rule :=
  [.positive "responses.success_code" r.successCode,
    .positive "responses.not_found_code" r.notFoundCode,
    .unused "responses.not_found_code" r.notFoundCode [r.successCode],
    .positive "responses.method_not_allowed_code" r.methodNotAllowedCode,
    .unused "responses.method_not_allowed_code" r.methodNotAllowedCode
      [r.successCode, r.notFoundCode],
    .positive "responses.fallback_error_code" r.fallbackErrorCode,
    .unused "responses.fallback_error_code" r.fallbackErrorCode
      [r.successCode, r.notFoundCode, r.methodNotAllowedCode]]

def rules (c : Config) : List Rule :=
  serverRules c.server ++ observabilityRules c.observability ++ codeRules c.responses

def codeFields : List (String × (Responses → Int32)) :=
  [("responses.success_code", (·.successCode)), ("responses.not_found_code", (·.notFoundCode)),
    ("responses.method_not_allowed_code", (·.methodNotAllowedCode)),
    ("responses.fallback_error_code", (·.fallbackErrorCode))]

structure Valid (c : Config) : Prop where
  bindAddress : isSocketAddress c.server.bindAddress = true
  requestTimeout : c.server.requestTimeoutSecs ≠ 0
  maxBody : c.server.maxBodyBytes ≠ 0
  metricsAddress : c.observability.metricsEnabled = true →
    isSocketAddress c.observability.metricsAddress = true
  maxLogBody : c.observability.maxLogBodyBytes ≠ 0
  positive : ∀ f ∈ codeFields, 0 < f.2 c.responses
  distinct : codeFields.Pairwise fun f g => f.2 c.responses ≠ g.2 c.responses

def listed (c : Config) : List String := (violations c).map (·.field)

def Mended {α : Type} (c : Config) (field : String) (legal : α → Prop) (old new : α) : Prop :=
  if field ∈ listed c then legal new else new = old

/-- `d` is `c` with every listed field mended. A code that is legal is positive and fresh: no other code
of `d` is the same. -/
structure Mends (c d : Config) : Prop where
  bindAddress : Mended c "server.bind_address" (isSocketAddress · = true)
    c.server.bindAddress d.server.bindAddress
  requestTimeout : Mended c "server.request_timeout_secs" (· ≠ 0)
    c.server.requestTimeoutSecs d.server.requestTimeoutSecs
  maxBody : Mended c "server.max_body_bytes" (· ≠ 0) c.server.maxBodyBytes d.server.maxBodyBytes
  metricsEnabled : d.observability.metricsEnabled = c.observability.metricsEnabled
  metricsAddress : Mended c "observability.metrics_address" (isSocketAddress · = true)
    c.observability.metricsAddress d.observability.metricsAddress
  maxLogBody : Mended c "observability.max_log_body_bytes" (· ≠ 0)
    c.observability.maxLogBodyBytes d.observability.maxLogBodyBytes
  code : ∀ f ∈ codeFields, Mended c f.1
    (fun code => 0 < code ∧ ∀ g ∈ codeFields, g.1 ≠ f.1 → g.2 d.responses ≠ code)
    (f.2 c.responses) (f.2 d.responses)

variable {c d : Config}

lemma addressViolations_eq (field address : String) :
    addressViolations field address = Rule.violations [.address field address] := by
  rw [addressViolations, Rule.violations_cons]
  cases h : isSocketAddress address <;> simp [Rule.address, Rule.violations, h]

lemma zeroViolations_eq (field : String) (n : Nat) :
    zeroViolations field n = Rule.violations [.aboveZero field n] := by
  rw [zeroViolations, Rule.violations_cons]
  simp [Rule.aboveZero, Rule.violations]

lemma serverViolations_eq (s : Server) : serverViolations s = Rule.violations (serverRules s) := by
  rw [serverViolations, addressViolations_eq, zeroViolations_eq, zeroViolations_eq,
    ← Rule.violations_append, ← Rule.violations_append]
  rfl

lemma observabilityViolations_eq (o : Observability) :
    observabilityViolations o = Rule.violations (observabilityRules o) := by
  rw [observabilityViolations, observabilityRules, addressViolations_eq, zeroViolations_eq,
    Rule.violations_append]
  cases o.metricsEnabled <;> rfl

lemma codeViolations_eq (r : Responses) :
    codeViolations [] (codes r) = Rule.violations (codeRules r) := by
  simp [codes, codeViolations, codeRules, Rule.violations_cons, Rule.violations_nil, Rule.positive,
    Rule.unused]

lemma violations_eq (c : Config) : violations c = Rule.violations (rules c) := by
  rw [violations, serverViolations_eq, observabilityViolations_eq, codeViolations_eq, rules,
    Rule.violations_append, Rule.violations_append]

lemma serverRules_kept {s : Server} : (∀ r ∈ serverRules s, r.broken = false) ↔
    isSocketAddress s.bindAddress = true ∧ s.requestTimeoutSecs ≠ 0 ∧ s.maxBodyBytes ≠ 0 := by
  simp [serverRules, Rule.address, Rule.aboveZero]

lemma observabilityRules_kept {o : Observability} :
    (∀ r ∈ observabilityRules o, r.broken = false) ↔
      (o.metricsEnabled = true → isSocketAddress o.metricsAddress = true) ∧
        o.maxLogBodyBytes ≠ 0 := by
  cases h : o.metricsEnabled <;> simp [observabilityRules, h, Rule.address, Rule.aboveZero]

lemma codeRules_kept {r : Responses} : (∀ q ∈ codeRules r, q.broken = false) ↔
    (∀ f ∈ codeFields, 0 < f.2 r) ∧ codeFields.Pairwise fun f g => f.2 r ≠ g.2 r := by
  simp only [codeRules, codeFields, Rule.positive, Rule.unused, List.forall_mem_cons,
    List.pairwise_cons, decide_eq_false_iff_not]
  grind

lemma valid_iff : Valid c ↔ ∀ r ∈ rules c, r.broken = false := by
  simp only [rules, List.forall_mem_append, serverRules_kept, observabilityRules_kept,
    codeRules_kept]
  constructor
  · intro h
    exact ⟨⟨⟨h.bindAddress, h.requestTimeout, h.maxBody⟩, h.metricsAddress, h.maxLogBody⟩,
      h.positive, h.distinct⟩
  · rintro ⟨⟨⟨hb, ht, hm⟩, ha, hl⟩, hp, hd⟩
    exact ⟨hb, ht, hm, ha, hl, hp, hd⟩

lemma violations_eq_nil_iff_valid : violations c = [] ↔ Valid c := by
  rw [violations_eq, Rule.violations_eq_nil_iff, valid_iff]

lemma unbroken_of_not_listed {r : Rule} (hr : r ∈ rules c) (h : r.violation.field ∉ listed c) :
    r.broken = false := by
  by_contra hb
  apply h
  rw [listed, violations_eq, Rule.violations, List.map_map]
  exact List.mem_map_of_mem (List.mem_filter.mpr ⟨hr, (Bool.not_eq_false _).mp hb⟩)

lemma Mended.legal {α : Type} {field : String} {legal : α → Prop} {old new : α}
    (h : Mended c field legal old new) (hold : field ∉ listed c → legal old) : legal new := by
  rw [Mended] at h
  split at h
  · exact h
  · rename_i hn
    exact h ▸ hold hn

section Unlisted

variable {field a : String}

lemma address_of_not_listed (hr : .address field a ∈ rules c) (h : field ∉ listed c) :
    isSocketAddress a = true := by
  simpa [Rule.address] using unbroken_of_not_listed hr h

lemma ne_zero_of_not_listed {n : Nat} (hr : .aboveZero field n ∈ rules c)
    (h : field ∉ listed c) : n ≠ 0 := by
  simpa [Rule.aboveZero] using unbroken_of_not_listed hr h

lemma pos_of_not_listed {code : Int32} (hr : .positive field code ∈ rules c)
    (h : field ∉ listed c) : 0 < code := by
  simpa [Rule.positive] using unbroken_of_not_listed hr h

lemma not_mem_of_not_listed {code : Int32} {earlier : List Int32}
    (hr : .unused field code earlier ∈ rules c) (h : field ∉ listed c) : code ∉ earlier := by
  simpa [Rule.unused] using unbroken_of_not_listed hr h

end Unlisted

lemma positive_mem_rules (c : Config) :
    ∀ f ∈ codeFields, .positive f.1 (f.2 c.responses) ∈ rules c := by
  simp [codeFields, rules, codeRules]

lemma listed_of_eq (c : Config) : codeFields.Pairwise fun f g =>
    f.1 ≠ g.1 ∧ (g.1 ∉ listed c → f.2 c.responses ≠ g.2 c.responses) := by
  have hmem : ∀ r ∈ codeRules c.responses, r ∈ rules c := fun r => List.mem_append_right _
  have hn : "responses.not_found_code" ∉ listed c →
      c.responses.notFoundCode ∉ [c.responses.successCode] :=
    not_mem_of_not_listed (hmem _ (by simp [codeRules]))
  have hm : "responses.method_not_allowed_code" ∉ listed c →
      c.responses.methodNotAllowedCode ∉ [c.responses.successCode, c.responses.notFoundCode] :=
    not_mem_of_not_listed (hmem _ (by simp [codeRules]))
  have hf : "responses.fallback_error_code" ∉ listed c → c.responses.fallbackErrorCode ∉
      [c.responses.successCode, c.responses.notFoundCode, c.responses.methodNotAllowedCode] :=
    not_mem_of_not_listed (hmem _ (by simp [codeRules]))
  simp only [codeFields, List.pairwise_cons, List.mem_cons, List.not_mem_nil, or_false,
    forall_eq_or_imp, forall_eq, not_or] at hn hm hf ⊢
  simp only [String.reduceEq, ne_eq, not_false_eq_true, true_and]
  grind

lemma Mends.mended (h : Mends c d) {f : String × (Responses → Int32)} (hf : f ∈ codeFields)
    (hl : f.1 ∈ listed c) : 0 < f.2 d.responses ∧
      ∀ g ∈ codeFields, g.1 ≠ f.1 → g.2 d.responses ≠ f.2 d.responses := by
  have hm := h.code f hf
  rwa [Mended, if_pos hl] at hm

lemma Mends.kept (h : Mends c d) {f : String × (Responses → Int32)} (hf : f ∈ codeFields)
    (hl : f.1 ∉ listed c) : f.2 d.responses = f.2 c.responses := by
  have hm := h.code f hf
  rwa [Mended, if_neg hl] at hm

lemma Mends.positive (h : Mends c d) {f : String × (Responses → Int32)} (hf : f ∈ codeFields) :
    0 < f.2 d.responses := by
  by_cases hl : f.1 ∈ listed c
  · exact (h.mended hf hl).1
  · rw [h.kept hf hl]
    exact pos_of_not_listed (positive_mem_rules c f hf) hl

lemma Mends.distinct (h : Mends c d) :
    codeFields.Pairwise fun f g => f.2 d.responses ≠ g.2 d.responses := by
  refine (listed_of_eq c).imp_of_mem fun {f g} hf hg hc => ?_
  obtain ⟨hne, hc⟩ := hc
  -- a mended code is fresh, and two that were kept were different before
  by_cases hlf : f.1 ∈ listed c
  · exact ((h.mended hf hlf).2 g hg hne.symm).symm
  · by_cases hlg : g.1 ∈ listed c
    · exact (h.mended hg hlg).2 f hf hne
    · rw [h.kept hf hlf, h.kept hg hlg]
      exact hc hlg

lemma Mends.valid (h : Mends c d) : Valid d where
  bindAddress := h.bindAddress.legal (address_of_not_listed (by simp [rules, serverRules]))
  requestTimeout := h.requestTimeout.legal (ne_zero_of_not_listed (by simp [rules, serverRules]))
  maxBody := h.maxBody.legal (ne_zero_of_not_listed (by simp [rules, serverRules]))
  metricsAddress he := by
    rw [h.metricsEnabled] at he
    exact h.metricsAddress.legal (address_of_not_listed (by simp [rules, observabilityRules, he]))
  maxLogBody := h.maxLogBody.legal (ne_zero_of_not_listed (by simp [rules, observabilityRules]))
  positive _ := h.positive
  distinct := h.distinct

/-- A configuration is accepted just when it is valid, whoever mends all that is listed gets a valid one,
and what is listed of any other are the rules that it breaks, each once and in their order. -/
theorem validation_specified (c : Config) :
    violations c = Rule.violations (rules c) ∧
    (violations c = [] ↔ Valid c) ∧
    (∀ d, Mends c d → violations d = []) ∧
    ∀ text, (Toml.document? text).bind ofEntries? = some c →
      (Valid c → parse text = .ok c) ∧
      (¬ Valid c → parse text = .error (.invalid (Rule.violations (rules c)))) := by
  refine ⟨violations_eq c, violations_eq_nil_iff_valid,
    fun d h => violations_eq_nil_iff_valid.mpr h.valid, fun text ht => ?_⟩
  rw [← violations_eq_nil_iff_valid, ← violations_eq]
  simp only [parse, ht]
  cases hv : violations c with
  | nil => exact ⟨fun _ => rfl, fun hn => absurd rfl hn⟩
  | cons v vs => exact ⟨fun he => absurd he (List.cons_ne_nil v vs), fun _ => rfl⟩

theorem validation_specified_duplicates :
    let text := ("[server]\nbind_address = '[::1]'\n[responses]\nnot_found_code = 0\n" ++
      "method_not_allowed_code = 0\nfallback_error_code = 0\n").toList
    let c : Config :=
      { server := { bindAddress := "[::1]" }
        responses := { notFoundCode := 0, methodNotAllowedCode := 0, fallbackErrorCode := 0 } }
    let d : Config := { server := { bindAddress := "[::1]:80" } }
    ((Toml.document? text).bind ofEntries? = some c ∧ ¬ Valid c ∧ Mends c d) ∧
    violations c = [
      ⟨"server.bind_address", "'[::1]' is not a socket address"⟩,
      ⟨"responses.not_found_code", "must be positive"⟩,
      ⟨"responses.method_not_allowed_code", "must be positive"⟩,
      ⟨"responses.method_not_allowed_code", "code 0 is already in use"⟩,
      ⟨"responses.fallback_error_code", "must be positive"⟩,
      ⟨"responses.fallback_error_code", "code 0 is already in use"⟩] ∧
    violations d = [] ∧ parse text = .error (.invalid (Rule.violations (rules c))) := by
  intro text c d
  have ht : (Toml.document? text).bind ofEntries? = some c := by decide +kernel
  have hc : ¬ Valid c := fun h => absurd h.bindAddress (by decide)
  have hl : listed c = ["server.bind_address", "responses.not_found_code",
      "responses.method_not_allowed_code", "responses.method_not_allowed_code",
      "responses.fallback_error_code", "responses.fallback_error_code"] := by decide
  have hm : Mends c d := by
    constructor
    case metricsEnabled => rfl
    case code =>
      intro f hf
      simp only [codeFields, List.mem_cons, List.not_mem_nil, or_false] at hf
      rcases hf with rfl | rfl | rfl | rfl
      all_goals
        rw [Mended, hl]
        decide
    all_goals
      rw [Mended, hl]
      decide
  obtain ⟨hv, -, hmend, hparse⟩ := validation_specified c
  exact ⟨⟨ht, hc, hm⟩, hv.trans (by decide), hmend d hm, (hparse text ht).2 hc⟩

end RpcServer.Config
