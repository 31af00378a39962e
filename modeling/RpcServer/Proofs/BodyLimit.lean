import RpcServer.Log.Loggable
import RpcServer.Proofs.HeaderText

/-! How long a body gets in the logs. Only the text of a failure, which is shown whole, can be longer
than the limit and the longest placeholder. -/

namespace RpcServer

open Text

def Payload.text (p : Payload) : Except Data.Failure (List Char) :=
  p.wire?.getD (.ok p.inspection.render)

namespace Log

variable {limit : ℕ} {p q : Payload} {s t : List Char} {e : Data.Failure}

lemma isVisible_of_isDigit {c : Char} (h : c.isDigit = true) : isVisible c = true := by
  have hc : 48 ≤ c.toNat ∧ c.toNat ≤ 57 := by
    simpa [Char.isDigit, UInt32.le_iff_toNat_le] using h
  simp only [isVisible, Bool.or_eq_true, Bool.and_eq_true, decide_eq_true_eq]
  omega

lemma size_toString (n : ℕ) : Utf8.size (toString n).toList = (Nat.toDigits 10 n).length := by
  have hd : ∀ c ∈ Nat.toDigits 10 n, isVisible c = true := fun c hc =>
    isVisible_of_isDigit (Nat.isDigit_of_mem_toDigits (by decide) (by decide) hc)
  rw [Nat.toString_eq_ofList_toDigits, String.toList_ofList, Utf8.size, encode_visible hd,
    List.length_map]

lemma size_between (before s after : List Char) : Utf8.size (before ++ s ++ after) =
    Utf8.size before + Utf8.size s + Utf8.size after := by
  rw [Utf8.size_append, Utf8.size_append]

-- The sizes of the fixed parts are put in by `congr`: a rewrite would unfold one text to see whether it
-- is another.
lemma size_tooLarge (n : ℕ) : Utf8.size (tooLarge n) = 23 + (Nat.toDigits 10 n).length + 7 := by
  have hb : Utf8.size "<body too large, size: ".toList = 23 := by decide
  have ha : Utf8.size " bytes>".toList = 7 := by decide
  refine (size_between _ _ _).trans ?_
  exact congrArg₂ (· + ·) (congrArg₂ (· + ·) hb (size_toString n)) ha

lemma size_failed (e : Data.Failure) :
    Utf8.size (failed e) = 25 + Utf8.size e.message.toList + 1 := by
  have hb : Utf8.size "<failed to marshal body: ".toList = 25 := by decide
  have ha : Utf8.size ['>'] = 1 := by decide
  refine (size_between _ _ _).trans ?_
  exact congrArg₂ (· + ·) (congrArg₂ (· + ·) hb rfl) ha

lemma size_tooLarge_le {n : ℕ} (h : n < 2 ^ 64) : Utf8.size (tooLarge n) ≤ 64 := by
  have hd : (Nat.toDigits 10 n).length ≤ 20 :=
    (Nat.length_toDigits_le_iff (by decide) (by decide)).mpr (by omega)
  rw [size_tooLarge]
  omega

lemma body_eq (limit : ℕ) (p : Payload) : body limit p =
    match p.text with
    | .ok s => bounded limit s
    | .error e => failed e := by
  rw [body, Payload.text]
  cases p.wire? with
  | none => rfl
  | some r => cases r <;> rfl

lemma body_of_le (h : p.text = .ok s) (hs : Utf8.size s ≤ limit) : body limit p = s := by
  simp only [body_eq, h, bounded_of_le hs]

lemma body_of_lt (h : p.text = .ok s) (hs : limit < Utf8.size s) :
    body limit p = tooLarge (Utf8.size s) := by
  simp only [body_eq, h, bounded, if_pos hs]

lemma body_of_error (h : p.text = .error e) : body limit p = failed e := by
  simp only [body_eq, h]

lemma body_within (hm : ∀ s, p.text = .ok s → Utf8.size s < 2 ^ 64) (h : p.text = .ok s) :
    Utf8.size (body limit p) ≤ max limit 64 := by
  by_cases hs : Utf8.size s ≤ limit
  · rw [body_of_le h hs]
    exact hs.trans (le_max_left limit 64)
  · rw [body_of_lt h (Nat.lt_of_not_le hs)]
    exact (size_tooLarge_le (hm s h)).trans (le_max_right limit 64)

/-- The limit, or the length of a placeholder, is kept by every payload that has a text, and by one that
has none if its failure is told in few words. Beyond the limit nothing but the size is seen. -/
theorem body_within_iff (limit : ℕ) (p : Payload)
    (hm : ∀ s, p.text = .ok s → Utf8.size s < 2 ^ 64) :
    (Utf8.size (body limit p) ≤ max limit 64 ↔
        ∀ e, p.text = .error e → 25 + Utf8.size e.message.toList + 1 ≤ max limit 64) ∧
      (∀ s, p.text = .ok s → Utf8.size s ≤ limit → body limit p = s) ∧
      ∀ s, p.text = .ok s → limit < Utf8.size s → body limit p = tooLarge (Utf8.size s) ∧
        ∀ q t, q.text = .ok t → Utf8.size t = Utf8.size s → body limit q = body limit p := by
  refine ⟨?_, fun s => body_of_le, fun s hp hs => ⟨body_of_lt hp hs, fun q t hq ht => ?_⟩⟩
  · cases h : p.text with
    | ok s => exact iff_of_true (body_within hm h) (by simp)
    | error e => simp [body_of_error h, size_failed]
  · rw [body_of_lt hp hs, body_of_lt hq (ht ▸ hs), ht]

theorem body_within_iff_plain :
    let p : Payload := .string "plain"
    let q : Payload := .message (.text "other")
    (∀ s, p.text = .ok s → Utf8.size s < 2 ^ 64) ∧ Utf8.size (body 3 p) ≤ 64 ∧
      body 3 q = body 3 p ∧ body 7 p = ['"', 'p', 'l', 'a', 'i', 'n', '"'] := by
  intro p q
  have hp : p.text = .ok ['"', 'p', 'l', 'a', 'i', 'n', '"'] := by decide
  have hq : q.text = .ok ['"', 'o', 't', 'h', 'e', 'r', '"'] := by decide
  have hm : ∀ s, p.text = .ok s → Utf8.size s < 2 ^ 64 := by
    intro s hs
    rw [← Except.ok.inj (hp.symm.trans hs)]
    decide
  obtain ⟨hb, -, hl⟩ := body_within_iff 3 p hm
  refine ⟨hm, hb.mpr (by simp [hp]), (hl _ hp (by decide)).2 q _ hq (by decide), ?_⟩
  exact (body_within_iff 7 p hm).2.1 _ hp (by decide)

def BodiesBounded : Prop :=
  ∀ limit p, (∀ s, p.text = .ok s → Utf8.size s < 2 ^ 64) →
    Utf8.size (body limit p) ≤ max limit 64

theorem refusal_exceeds : ¬ BodiesBounded := by
  intro h
  let e : Data.Failure := .refused (String.ofList (List.replicate 64 'x'))
  have hp : (Payload.message (.refused (String.ofList (List.replicate 64 'x')))).text = .error e := rfl
  have hs : Utf8.size e.message.toList = 64 := by decide
  have hl := h 16 _ fun s hs => by
    rw [hp] at hs
    contradiction
  rw [body_of_error hp, size_failed, hs] at hl
  exact absurd hl (by decide)

end Log

end RpcServer
