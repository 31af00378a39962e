import Mathlib.Data.Int.Order.Basic
import Mathlib.Data.List.Basic
import Mathlib.Data.List.TakeWhile
import Mathlib.Data.Option.Basic
import RpcServer.Json.Token
import RpcServer.Proofs.JsonText

/-! The tokens of printed values. A word or number is open at its end, and the mark behind it closes
it; strings and containers close themselves. -/

namespace RpcServer.Json

open Text

namespace Number

lemma isDigit_of_mem {n : ℕ} {c : Char} (h : c ∈ Nat.toDigits 10 n) : isDigit c = true :=
  isDigit_of_mem_toDigits h

lemma head_toDigits {n : ℕ} (hn : 0 < n) : (Nat.toDigits 10 n).head? ≠ some '0' := by
  induction n using Nat.strongRecOn with
  | ind n ih =>
    by_cases h : n < 10
    · rw [Nat.toDigits_of_lt_base h, List.head?_cons]
      intro hz
      have := Nat.digitChar_eq_zero.mp (Option.some.inj hz)
      omega
    · rw [Nat.toDigits_of_base_le (by decide) (by omega),
        List.head?_append_of_ne_nil _ Nat.toDigits_ne_nil]
      exact ih (n / 10) (by omega) (by omega)

def gathered (n : ℕ) (cs : List Char) : ℕ := cs.foldl (fun n c => n * 10 + digitValue c) n

lemma le_gathered (n : ℕ) (cs : List Char) : n ≤ gathered n cs := by
  induction cs generalizing n with
  | nil => exact le_rfl
  | cons c cs ih =>
    have hc := ih (n * 10 + digitValue c)
    rw [gathered, List.foldl_cons]
    exact le_trans (by omega) hc

lemma gather_eq {n : ℕ} {cs : List Char} (h : gathered n cs < wordLimit) :
    gather n 0 cs = (gathered n cs, 0) := by
  induction cs generalizing n with
  | nil => rfl
  | cons c cs ih =>
    have hc : n * 10 + digitValue c < wordLimit := lt_of_le_of_lt (le_gathered _ cs) h
    rw [gather, if_pos ⟨rfl, hc⟩]
    exact ih h

lemma gathered_toDigits (n : ℕ) : gathered 0 (Nat.toDigits 10 n) = n := by
  have h : Nat.ofDigitChars 10 (Nat.toDigits 10 n) 0 = n := Nat.ofDigitChars_ten_toDigits
  rw [Nat.ofDigitChars_eq_foldl] at h
  simp only [Nat.mul_comm 10] at h
  exact h

lemma ofLexeme?_toDigits {n : ℕ} (h : n < wordLimit) :
    ofLexeme? (Nat.toDigits 10 n) = some (some (whole false n)) ∧
      ofLexeme? ('-' :: Nat.toDigits 10 n) = some (some (whole true n)) := by
  have hd : ∀ c ∈ Nat.toDigits 10 n, isDigit c = true := fun _ => isDigit_of_mem
  have hg : gather 0 0 (Nat.toDigits 10 n) = (n, 0) := by
    rw [gather_eq, gathered_toDigits]
    rwa [gathered_toDigits]
  have hz : (Nat.toDigits 10 n).head? ≠ some '0' ∨ (Nat.toDigits 10 n).length = 1 := by
    by_cases hn : n < 10
    · exact .inr (by rw [Nat.toDigits_of_lt_base hn, List.length_singleton])
    · exact .inl (head_toDigits (by omega))
  have hne : Nat.toDigits 10 n ≠ [] := Nat.toDigits_ne_nil
  generalize Nat.toDigits 10 n = ds at *
  have ht : ds.takeWhile isDigit = ds := List.takeWhile_eq_self_iff.mpr hd
  have hr : ds.dropWhile isDigit = [] := List.dropWhile_eq_nil_iff.mpr hd
  constructor
  · -- the first digit is no sign
    cases ds with
    | nil => exact absurd rfl hne
    | cons c ds =>
      have hc : c ≠ '-' := by
        intro he
        have hm : isDigit '-' = true := he ▸ hd c List.mem_cons_self
        exact absurd hm (by decide)
      have hz' : ¬ c = '0' ∨ ds = [] := by simpa using hz
      simp [ofLexeme?, hc, ht, hr, hg, hz', exponent?]
  · simp [ofLexeme?, ht, hr, hg, hz, hne, exponent?]

lemma ofLexeme?_toString {n : ℤ} (hlo : lowest ≤ n) (hhi : n ≤ highest) :
    ofLexeme? (toString n).toList = some (some (.integer n)) := by
  have hl : lowest = -2 ^ 63 := by decide
  have hh : highest = 2 ^ 64 - 1 := by decide
  have hw : wordLimit = 2 ^ 64 := by decide
  cases n with
  | ofNat m =>
    have hm : m < wordLimit := by
      have : (m : ℤ) ≤ highest := hhi
      omega
    rw [toList_ofNat, (ofLexeme?_toDigits hm).1]
    rfl
  | negSucc m =>
    have hm : m + 1 ≤ 2 ^ 63 := by
      rw [Int.negSucc_eq] at hlo
      omega
    have hb : ¬ (m + 1 = 0 ∨ Nat.pow 2 63 < m + 1) := by
      have : Nat.pow 2 63 = 2 ^ 63 := rfl
      omega
    rw [toList_negSucc, (ofLexeme?_toDigits (by omega)).2, whole, if_neg (by decide), if_neg hb]
    rfl

end Number

lemma bareToken?_toString {n : ℤ} (hlo : lowest ≤ n) (hhi : n ≤ highest) :
    bareToken? (toString n).toList = some (.number (some (.integer n))) := by
  have hw : ∀ w : List Char, w.all isIntegerChar = false → (toString n).toList ≠ w := by
    rintro w hw rfl
    rw [List.all_eq_true.mpr fun _ => isIntegerChar_of_mem] at hw
    cases hw
  rw [bareToken?, if_neg (hw _ rfl), if_neg (hw _ rfl), if_neg (hw _ rfl),
    Number.ofLexeme?_toString hlo hhi]
  rfl

lemma number?_control {c : Char} (hc : c < ' ') :
    ∃ a b, Hex.ofByte (UInt8.ofNat c.toNat) = [a, b] ∧ Hex.number? [a, b] = some c.toNat := by
  have hn : c.toNat < 32 := hc
  have hb := Hex.number?_ofByte (UInt8.ofNat c.toNat)
  rw [UInt8.toNat_ofNat_of_lt' (lt_trans hn (by decide))] at hb
  exact ⟨_, _, rfl, hb⟩

namespace StringBody

lemma read_cons {c : Char} (hq : c ≠ '\\') (hc : ' ' ≤ c) (done : List Char) (rest : List Glyph) :
    read done true none (some c :: rest) = read (c :: done) true none rest := by
  have hn : ¬ c < ' ' := Char.not_lt.mpr hc
  simp [read, hq, hn]

lemma read_unicode {c : Char} (hc : c < ' ') (done : List Char) (rest : List Glyph) :
    read done true none (('\\' :: 'u' :: '0' :: '0' :: Hex.ofByte (UInt8.ofNat c.toNat)).map some ++
      rest) = read (c :: done) true none rest := by
  have hn : c.toNat < 32 := hc
  have hl : isLead c.toNat = false := by simp [isLead]; omega
  have ht : isTrail c.toNat = false := by simp [isTrail]; omega
  obtain ⟨a, b, hab, hb⟩ := number?_control hc
  have hd : Hex.number? ['0', '0', a, b] = some c.toNat := hb
  rw [hab]
  simp only [List.map_cons, List.map_nil, List.cons_append, List.nil_append]
  rw [read.eq_def]
  simp [hd, hl, ht]

lemma read_escape (c : Char) (done : List Char) (rest : List Glyph) :
    read done true none ((escape c).map some ++ rest) = read (c :: done) true none rest := by
  unfold escape
  split_ifs with h₁ h₂ h₃ h₄ h₅ h₆ h₇ h₈
  · subst h₁
    rfl
  · subst h₂
    rfl
  · subst h₃
    rfl
  · subst h₄
    rfl
  · subst h₅
    rfl
  · subst h₆
    rfl
  · subst h₇
    rfl
  · exact read_unicode h₈ done rest
  · exact read_cons h₂ (Char.not_lt.mp h₈) done rest

lemma read_body (s done : List Char) :
    read done true none ((s.flatMap escape).map some) =
      some (some (String.ofList (done.reverse ++ s))) := by
  induction s generalizing done with
  | nil => simp [read]
  | cons c s ih =>
    rw [List.flatMap_cons, List.map_append, read_escape, ih]
    simp

end StringBody

lemma stringBody?_escape (s : String) :
    stringBody? ((s.toList.flatMap escape).map some) = some (some s) := by
  rw [stringBody?, StringBody.read_body, List.reverse_nil, List.nil_append, String.ofList_toList]

/-- What was scanned makes the tokens `done`, in reverse, the last of which may be open. -/
inductive Settled : List Token → List Token × Scan → Prop where
  | between (done : List Token) : Settled done (done, .between)
  | bare {lexeme : List Char} {t : Token} (h : bareToken? lexeme.reverse = some t)
      (done : List Token) : Settled (t :: done) (done, .bare lexeme)

def Scans (st : List Token × Scan) (s : List Char) (done : List Token) : Prop :=
  ∃ st', (s.map some).foldlM scanStep st = some st' ∧ Settled done st'

/-- The text makes these tokens behind a mark. -/
def Lexes (s : List Char) (ts : List Token) : Prop :=
  ∀ done, Scans (done, .between) s (ts.reverse ++ done)

/-- The text makes these tokens behind any text. -/
def Continues (s : List Char) (ts : List Token) : Prop :=
  ∀ done st, Settled done st → Scans st s (ts.reverse ++ done)

variable {s u : List Char} {ts us : List Token} {t : Token} {c : Char}

lemma foldlM_of_steps {σ α : Type} {f : σ → α → Option σ} {a b : σ} {xs : List α}
    (h : xs.foldlM f a = some b) (ys : List α) : (xs ++ ys).foldlM f a = ys.foldlM f b := by
  rw [List.foldlM_append, h]
  rfl

lemma foldlM_single {σ α : Type} (f : σ → α → Option σ) (a : σ) (x : α) :
    [x].foldlM f a = f a x := by
  rw [List.foldlM_cons]
  exact bind_pure _

lemma Continues.nil : Continues [] [] := fun _ st h => ⟨st, rfl, h⟩

lemma Scans.append {st : List Token × Scan} {done : List Token}
    (h : Scans st s (ts.reverse ++ done)) (k : Continues u us) :
    Scans st (s ++ u) ((ts ++ us).reverse ++ done) := by
  obtain ⟨st', hs, hst'⟩ := h
  obtain ⟨st'', hu, hst''⟩ := k _ st' hst'
  refine ⟨st'', ?_, ?_⟩
  · rw [List.map_append, foldlM_of_steps hs, hu]
  · rwa [List.reverse_append, List.append_assoc]

lemma Continues.append (h : Continues s ts) (k : Continues u us) : Continues (s ++ u) (ts ++ us) :=
  fun done st hst => (h done st hst).append k

lemma Lexes.append (h : Lexes s ts) (k : Continues u us) : Lexes (s ++ u) (ts ++ us) :=
  fun done => (h done).append k

lemma Continues.lexes (h : Continues s ts) : Lexes s ts := fun done => h done _ (.between done)

lemma outside_mark (hc : mark? c = some t) (done : List Token) :
    isBareChar c = false ∧ outside done c = some (t :: done, .between) := by
  unfold mark? at hc
  split at hc <;> cases hc <;> exact ⟨rfl, rfl⟩

lemma scanStep_mark (hc : mark? c = some t) {done : List Token} {st : List Token × Scan}
    (h : Settled done st) : scanStep st (some c) = some (t :: done, .between) := by
  cases h with
  | between => exact (outside_mark hc done).2
  | bare h done =>
    rw [scanStep, (outside_mark hc done).1, h]
    exact (outside_mark hc _).2

lemma Lexes.behind (h : Lexes s ts) (hc : mark? c = some t) : Continues (c :: s) (t :: ts) := by
  intro done st hst
  obtain ⟨st', hs, hst'⟩ := h (t :: done)
  refine ⟨st', ?_, ?_⟩
  · rw [List.map_cons, List.foldlM_cons, scanStep_mark hc hst]
    exact hs
  · rwa [List.reverse_cons, List.append_assoc, List.singleton_append]

lemma continues_mark (hc : mark? c = some t) : Continues [c] [t] := Continues.nil.lexes.behind hc

lemma scan_bare {s : List Char} (hs : ∀ c ∈ s, isBareChar c = true) (lexeme : List Char)
    (done : List Token) : (s.map some).foldlM scanStep (done, .bare lexeme) =
      some (done, .bare (s.reverse ++ lexeme)) := by
  induction s generalizing lexeme with
  | nil => rfl
  | cons c s ih =>
    have hc : scanStep (done, .bare lexeme) (some c) = some (done, .bare (c :: lexeme)) := by
      simp only [scanStep, hs c List.mem_cons_self, if_true]
    rw [List.map_cons, List.foldlM_cons, hc, List.reverse_cons, List.append_assoc]
    exact ih (fun d hd => hs d (List.mem_cons_of_mem c hd)) (c :: lexeme)

lemma outside_bare (hc : isBareChar c = true) (done : List Token) :
    outside done c = some (done, .bare [c]) := by
  have hne : ∀ d, isBareChar d = false → c ≠ d := by
    rintro d hd rfl
    rw [hc] at hd
    cases hd
  simp [outside, isSpace, hc, hne ' ' rfl, hne '\t' rfl, hne '\n' rfl, hne '\r' rfl, hne '"' rfl]

lemma lexes_bare (ht : bareToken? s = some t) (hs : s.all isBareChar = true) : Lexes s [t] := by
  have hb : ∀ c ∈ s, isBareChar c = true := List.all_eq_true.mp hs
  intro done
  cases s with
  | nil => cases ht
  | cons c s =>
    have hstart : scanStep (done, .between) (some c) = some (done, .bare [c]) :=
      outside_bare (hb c List.mem_cons_self) done
    refine ⟨(done, .bare (s.reverse ++ [c])), ?_, .bare ?_ done⟩
    · rw [List.map_cons, List.foldlM_cons, hstart]
      exact scan_bare (fun d hd => hb d (List.mem_cons_of_mem c hd)) [c] done
    · rwa [← List.reverse_cons, List.reverse_reverse]

lemma escape_cases (c : Char) : escape c = [c] ∧ c ≠ '"' ∧ c ≠ '\\' ∨
    ∃ d s, escape c = '\\' :: d :: s ∧ ∀ e ∈ s, e ≠ '"' ∧ e ≠ '\\' := by
  have hx : ∀ e ∈ '0' :: '0' :: Hex.ofByte (UInt8.ofNat c.toNat), e ≠ '"' ∧ e ≠ '\\' := by
    have hd : ∀ e, Hex.isLowerDigit e = true → e ≠ '"' ∧ e ≠ '\\' := by
      intro e he
      constructor <;> rintro rfl <;> cases he
    intro e he
    rcases List.mem_cons.mp he with rfl | he
    · exact hd '0' rfl
    rcases List.mem_cons.mp he with rfl | he
    · exact hd '0' rfl
    · exact hd e (Hex.isLowerDigit_ofByte he)
  unfold escape
  split_ifs with hq hb
  any_goals exact .inr ⟨_, [], rfl, by simp⟩
  · exact .inr ⟨'u', _, rfl, hx⟩
  · exact .inl ⟨rfl, hq, hb⟩

lemma scan_plain {s : List Char} (hs : ∀ c ∈ s, c ≠ '"' ∧ c ≠ '\\') (done : List Token)
    (body : List Glyph) : (s.map some).foldlM scanStep (done, .quoted body false) =
      some (done, .quoted ((s.map some).reverse ++ body) false) := by
  induction s generalizing body with
  | nil => rfl
  | cons c s ih =>
    obtain ⟨hq, hb⟩ := hs c List.mem_cons_self
    have hc : scanStep (done, .quoted body false) (some c) =
        some (done, .quoted (some c :: body) false) := by
      simp [scanStep, hq, hb]
    rw [List.map_cons, List.foldlM_cons, hc, List.reverse_cons, List.append_assoc]
    exact ih (fun d hd => hs d (List.mem_cons_of_mem c hd)) (some c :: body)

lemma scan_escape (c : Char) (done : List Token) (body : List Glyph) :
    ((escape c).map some).foldlM scanStep (done, .quoted body false) =
      some (done, .quoted (((escape c).map some).reverse ++ body) false) := by
  rcases escape_cases c with ⟨he, hc⟩ | ⟨d, s, he, hs⟩
  · rw [he]
    exact scan_plain (by simpa using hc) done body
  · -- the character behind the backslash is passed whatever it is
    have h := scan_plain hs done (some d :: some '\\' :: body)
    rw [he]
    simp only [List.map_cons, List.reverse_cons, List.append_assoc, List.cons_append,
      List.nil_append]
    exact h

lemma scan_body (s : List Char) (done : List Token) (body : List Glyph) :
    ((s.flatMap escape).map some).foldlM scanStep (done, .quoted body false) =
      some (done, .quoted (((s.flatMap escape).map some).reverse ++ body) false) := by
  induction s generalizing body with
  | nil => rfl
  | cons c s ih =>
    rw [List.flatMap_cons, List.map_append, foldlM_of_steps (scan_escape c done body), ih,
      List.reverse_append, List.append_assoc]

lemma lexes_string (s : String) : Lexes (renderString s) [.string (some s)] := by
  intro done
  have hopen : scanStep (done, .between) (some '"') = some (done, .quoted [] false) := rfl
  have hclose : scanStep (done, .quoted ((s.toList.flatMap escape).map some).reverse false)
      (some '"') = some (.string (some s) :: done, .between) := by
    rw [scanStep, List.reverse_reverse, stringBody?_escape]
    rfl
  refine ⟨_, ?_, .between _⟩
  rw [renderString, List.cons_append, List.map_cons, List.map_append, List.foldlM_cons, hopen]
  refine (foldlM_of_steps (scan_body s.toList done []) _).trans ?_
  rw [List.append_nil, List.map_singleton, foldlM_single, hclose]
  rfl

lemma tokens?_of_lexes (h : Lexes s ts) : tokens? (s.map some) = some ts := by
  obtain ⟨st, hs, hst⟩ := h []
  rw [List.append_nil] at hst
  rw [tokens?, hs, Option.bind_some]
  generalize hr : ts.reverse = done at hst
  cases hst with
  | between => rw [scanEnd, ← hr, List.reverse_reverse]
  | bare ht done => rw [scanEnd, ht, Option.map_some, ← hr, List.reverse_reverse]

end RpcServer.Json
