import Mathlib.Data.List.Induction
import RpcServer.Proofs.Clock
import RpcServer.Proofs.ContextFamily

/-! When a context is done. It is cancelled when somebody has cancelled a context with the same signal,
late when the earliest of its deadlines has come, and once it is done it stays so. -/

namespace RpcServer

/-- It has happened: `P past x` says it of `x` after `past`. -/
def Happened {α : Type} (P : List α → α → Prop) (xs : List α) : Prop :=
  ∃ past x later, xs = past ++ x :: later ∧ P past x

lemma happened_snoc {α : Type} {P : List α → α → Prop} {xs : List α} {x : α} :
    Happened P (xs ++ [x]) ↔ Happened P xs ∨ P xs x := by
  constructor
  · rintro ⟨p, y, q, h, hp⟩
    rcases List.eq_nil_or_concat q with rfl | ⟨q, z, rfl⟩
    · obtain ⟨rfl, rfl⟩ := List.append_inj' h rfl |>.imp_right (List.cons.inj · |>.1)
      exact .inr hp
    · have h : xs ++ [x] = (p ++ y :: q) ++ [z] := by
        rw [h, List.concat_eq_append, List.append_assoc]
        rfl
      obtain ⟨rfl, -⟩ := List.append_inj' h rfl
      exact .inl ⟨p, y, q, rfl, hp⟩
  · rintro (⟨p, y, q, rfl, hp⟩ | hp)
    · exact ⟨p, y, q ++ [x], by rw [List.append_assoc]; rfl, hp⟩
    · exact ⟨xs, x, [], rfl, hp⟩

lemma not_happened_nil {α : Type} {P : List α → α → Prop} : ¬ Happened P [] := by
  rintro ⟨p, x, q, h, -⟩
  exact List.append_ne_nil_of_right_ne_nil p (List.cons_ne_nil x q) h.symm

namespace Context

variable {c : Context} {bs : List Binding}

lemma signal_bindAll (h : ∀ b ∈ bs, b.signal? = none) : (c.bindAll bs).signal = c.signal := by
  induction bs generalizing c with
  | nil => rfl
  | cons b bs ih =>
    have hb : (c.bind b).signal = c.signal := by
      rw [bind_eq, h b List.mem_cons_self]
      rfl
    exact (ih fun a ha => h a (List.mem_cons_of_mem b ha)).trans hb

lemma deadline_bindAll_le {d : Instant} (h : c.deadline = some d) (bs : List Binding) :
    ∃ e, (c.bindAll bs).deadline = some e ∧ e ≤ d := by
  have hm : (c.bindAll bs).deadline = (d :: Binding.deadlines bs).min? := by
    rw [deadline_bindAll, h]
    rfl
  cases he : (d :: Binding.deadlines bs).min? with
  | none => exact absurd (List.min?_eq_none_iff.mp he) (List.cons_ne_nil d _)
  | some e => exact ⟨e, hm.trans he, (List.min?_eq_some_iff.mp he).2 d List.mem_cons_self⟩

def Late (c : Context) (now : Instant) : Prop := ∃ d, c.deadline = some d ∧ d ≤ now

lemma done?_spec (c : Context) (cancelled : Bool) (now : Instant) :
    (cancelled = true ∧ c.done? cancelled now = some .cancelled) ∨
    (cancelled = false ∧ c.Late now ∧ c.done? cancelled now = some .deadlineExceeded) ∨
    (cancelled = false ∧ ¬ c.Late now ∧ c.done? cancelled now = none) := by
  cases cancelled with
  | true => exact .inl ⟨rfl, rfl⟩
  | false =>
    simp only [done?, Late]
    cases c.deadline with
    | none => simp
    | some d => by_cases hd : d ≤ now <;> simp [hd]

end Context

namespace World

variable {w : World} {s : Signal}

lemma isCancelled_iff_mem : w.isCancelled s = true ↔ s ∈ w.cancelled := by
  simp [isCancelled]

lemma done?_eq_cancelled {c : Context} :
    w.done? c = some .cancelled ↔ w.isCancelled c.signal = true := by
  rcases c.done?_spec (w.isCancelled c.signal) w.now with ⟨h, he⟩ | ⟨h, -, he⟩ | ⟨h, -, he⟩ <;>
    rw [done?, he, h]
  · exact iff_of_true rfl rfl
  · exact iff_of_false (by decide) Bool.false_ne_true
  · exact iff_of_false (by decide) Bool.false_ne_true

end World

namespace Family

variable {f : Family} {m n : Member} {x : Step} {xs ys : List Step} {s : Signal} {epoch : ℕ}

def err (f : Family) (m : Member) : Option ServiceError := f.world.done? m.context

def Cancels (f : Family) (x : Step) (s : Signal) : Prop :=
  ∃ k m, x = .cancel k ∧ f.members[k]? = some m ∧ m.context.signal = s

def Cancelled (epoch : ℕ) (xs : List Step) (s : Signal) : Prop :=
  ∃ p x q, xs = p ++ x :: q ∧ (after epoch p).Cancels x s

structure Moves (f : Family) (x : Step) (w : World) : Prop where
  now : f.world.now ≤ w.now
  issued : f.world.issued ≤ w.issued
  due : w.due = []
  cancelled : ∀ s, s ∈ w.cancelled ↔ s ∈ f.world.cancelled ∨ f.Cancels x s

lemma not_cancels (hx : ∀ k, x ≠ .cancel k) (s : Signal) : ¬ f.Cancels x s := by
  rintro ⟨k, m, rfl, -⟩
  exact hx k rfl

lemma moves_of_same {w : World} (hf : f.world.due = []) (hw : w = f.world)
    (hx : ∀ s, ¬ f.Cancels x s) : f.Moves x w := by
  subst hw
  exact ⟨Int.le_refl _, Nat.le_refl _, hf, fun s => (or_iff_left (hx s)).symm⟩

lemma step_moves (hf : f.world.due = []) (x : Step) : f.Moves x (f.step x).world := by
  cases x with
  | create =>
    have hn := not_cancels (f := f) (x := .create) (fun _ => Step.noConfusion)
    exact ⟨Int.le_refl _, Nat.le_succ _, hf, fun s => (or_iff_left (hn s)).symm⟩
  | clone k => exact moves_of_same hf rfl (not_cancels fun _ => Step.noConfusion)
  | bind k b =>
    refine moves_of_same hf ?_ (not_cancels fun _ => Step.noConfusion)
    simp only [step]
    split <;> rfl
  | timeout k ms =>
    refine moves_of_same hf ?_ (not_cancels fun _ => Step.noConfusion)
    simp only [step]
    split <;> rfl
  | cancel k =>
    simp only [step]
    cases hm : f.members[k]? with
    | none =>
      refine moves_of_same hf rfl ?_
      rintro s ⟨j, m, hx, hj, -⟩
      obtain rfl := Step.cancel.inj hx
      exact absurd (hm.symm.trans hj) (Option.some_ne_none m).symm
    | some m =>
      refine ⟨Int.le_refl _, Nat.le_refl _, hf, fun s => List.mem_cons.trans (or_comm.trans ?_)⟩
      refine or_congr Iff.rfl ⟨fun hs => ⟨k, m, rfl, hm, hs.symm⟩, ?_⟩
      rintro ⟨j, n, hx, hj, hs⟩
      obtain rfl := Step.cancel.inj hx
      obtain rfl := Option.some.inj (hm.symm.trans hj)
      exact hs.symm
  | advance ms =>
    have hn := not_cancels (f := f) (x := .advance ms) (fun _ => Step.noConfusion)
    simp only [step]
    by_cases h : f.world.now + ms ≤ f.world.now
    · exact moves_of_same hf (World.moveTo_of_le h) hn
    · have h := Int.not_le.mp h
      rw [World.moveTo_of_lt h, hf]
      exact ⟨Int.le_of_lt h, Nat.le_refl _, rfl, fun s => (or_iff_left (hn s)).symm⟩

/-- Nothing is due to happen by itself, and the signals of all contexts have been issued. -/
structure Sound (f : Family) : Prop where
  due : f.world.due = []
  issued : ∀ m ∈ f.members, m.context.signal.id < f.world.issued

lemma Sound.step (h : f.Sound) (x : Step) : (f.step x).Sound := by
  have hm := step_moves h.due x
  refine ⟨hm.due, fun n hn => ?_⟩
  rcases mem_step hn with hn | ⟨rfl, rfl⟩ | ⟨m, hmem, b, hb, rfl⟩
  · exact Nat.lt_of_lt_of_le (h.issued n hn) hm.issued
  · exact Nat.lt_succ_self f.world.issued
  · refine Nat.lt_of_lt_of_le ?_ hm.issued
    simp only [Member.bind, Context.bind_eq]
    cases hs : b.signal? with
    | none => exact h.issued m hmem
    | some s => exact hb s hs

lemma run_snoc (f : Family) (xs : List Step) (x : Step) : f.run (xs ++ [x]) = (f.run xs).step x :=
  run_append f xs [x]

lemma after_sound (epoch : ℕ) (xs : List Step) : (after epoch xs).Sound := by
  induction xs using List.reverseRecOn with
  | nil => exact ⟨rfl, fun _ hm => absurd hm List.not_mem_nil⟩
  | append_singleton xs x ih =>
    rw [after, run_snoc]
    exact ih.step x

lemma cancelled_snoc : Cancelled epoch (xs ++ [x]) s ↔
    Cancelled epoch xs s ∨ (after epoch xs).Cancels x s := happened_snoc

lemma mem_cancelled : s ∈ (after epoch xs).world.cancelled ↔ Cancelled epoch xs s := by
  induction xs using List.reverseRecOn with
  | nil => exact iff_of_false List.not_mem_nil not_happened_nil
  | append_singleton xs x ih =>
    rw [cancelled_snoc, ← ih, after, run_snoc]
    exact (step_moves (after_sound epoch xs).due x).cancelled s

lemma isCancelled_iff : (after epoch xs).world.isCancelled s = true ↔ Cancelled epoch xs s :=
  World.isCancelled_iff_mem.trans mem_cancelled

lemma now_le_run (hf : f.Sound) (ys : List Step) : f.world.now ≤ (f.run ys).world.now := by
  induction ys generalizing f with
  | nil => exact Int.le_refl _
  | cons y ys ih => exact Int.le_trans (step_moves hf.due y).now (ih (hf.step y))

lemma Cancelled.append (h : Cancelled epoch xs s) (ys : List Step) :
    Cancelled epoch (xs ++ ys) s := by
  obtain ⟨p, x, q, rfl, hc⟩ := h
  exact ⟨p, x, q ++ ys, by rw [List.append_assoc]; rfl, hc⟩

lemma err_spec (epoch : ℕ) (xs : List Step) (m : Member) :
    let f := after epoch xs
    let cancelled := Cancelled epoch xs m.context.signal
    (cancelled ∧ f.err m = some .cancelled) ∨
    (¬ cancelled ∧ m.context.Late f.world.now ∧ f.err m = some .deadlineExceeded) ∨
    (¬ cancelled ∧ ¬ m.context.Late f.world.now ∧ f.err m = none) := by
  intro f cancelled
  have hc : f.world.isCancelled m.context.signal = true ↔ cancelled := isCancelled_iff
  rw [← hc, Bool.not_eq_true]
  exact m.context.done?_spec (f.world.isCancelled m.context.signal) f.world.now

lemma err_eq_cancelled :
    (after epoch xs).err m = some .cancelled ↔ Cancelled epoch xs m.context.signal :=
  World.done?_eq_cancelled.trans isCancelled_iff

lemma err_eq_deadlineExceeded : (after epoch xs).err m = some .deadlineExceeded ↔
    ¬ Cancelled epoch xs m.context.signal ∧ m.context.Late (after epoch xs).world.now := by
  rcases err_spec epoch xs m with ⟨hc, he⟩ | ⟨hc, hl, he⟩ | ⟨hc, hl, he⟩ <;> rw [he]
  · exact iff_of_false (by decide) fun h => h.1 hc
  · exact iff_of_true rfl ⟨hc, hl⟩
  · exact iff_of_false (by decide) fun h => hl h.2

lemma err_eq_none : (after epoch xs).err m = none ↔
    ¬ Cancelled epoch xs m.context.signal ∧ ¬ m.context.Late (after epoch xs).world.now := by
  rcases err_spec epoch xs m with ⟨hc, he⟩ | ⟨hc, hl, he⟩ | ⟨hc, hl, he⟩ <;> rw [he]
  · exact iff_of_false (by decide) fun h => h.1 hc
  · exact iff_of_false (by decide) fun h => h.2 hl
  · exact iff_of_true rfl ⟨hc, hl⟩

lemma late_bindAll {c : Context} {now now' : Instant} (h : c.Late now) (hn : now ≤ now')
    (bs : List Binding) : (c.bindAll bs).Late now' := by
  obtain ⟨d, hd, hle⟩ := h
  obtain ⟨e, he, hed⟩ := Context.deadline_bindAll_le hd bs
  exact ⟨e, he, Int.le_trans hed (Int.le_trans hle hn)⟩

lemma err_continues {later : List Binding} (hm : m ∈ (after epoch xs).members)
    (hn : n ∈ (after epoch (xs ++ ys)).members) (hc : n.Continues m later)
    (hl : ∀ b ∈ later, b.signal? = none) :
    ((after epoch xs).err m ≠ none → (after epoch (xs ++ ys)).err n ≠ none) ∧
    ((after epoch xs).err m = some .cancelled →
      (after epoch (xs ++ ys)).err n = some .cancelled) := by
  have hb : n.context = m.context.bindAll later :=
    (after_faithful epoch xs m hm).continues (after_faithful epoch (xs ++ ys) n hn) hc
  have hs : n.context.signal = m.context.signal := by rw [hb, Context.signal_bindAll hl]
  have ht : (after epoch xs).world.now ≤ (after epoch (xs ++ ys)).world.now := by
    rw [after, after, run_append]
    exact now_le_run (after_sound epoch xs) ys
  constructor
  · rw [ne_eq, err_eq_none, ne_eq, err_eq_none, hs, hb]
    rintro hd ⟨hcancelled, hlate⟩
    exact hd ⟨fun h => hcancelled (h.append ys), fun h => hlate (late_bindAll h ht later)⟩
  · rw [err_eq_cancelled, err_eq_cancelled, hs]
    exact fun h => h.append ys

lemma err_cancel_other {k : ℕ} (hk : f.members[k]? = some n)
    (hs : n.context.signal ≠ m.context.signal) : (f.step (.cancel k)).err m = f.err m := by
  have hw : (f.step (.cancel k)).world = f.world.cancel n.context.signal := by simp only [step, hk]
  have hc : (f.world.cancel n.context.signal).isCancelled m.context.signal =
      f.world.isCancelled m.context.signal := by
    simp [World.isCancelled, World.cancel, hs.symm]
  simp only [err, World.done?, hw, hc]
  rfl

/-- A context is cancelled exactly when a context with its signal has been cancelled, late exactly when
the earliest of its deadlines has come, and done for ever then, with all contexts that are made of it.
Nothing else makes it done. -/
theorem done_exactly (epoch : ℕ) (xs : List Step) (m : Member)
    (hm : m ∈ (after epoch xs).members) :
    let f := after epoch xs
    let cancelled := Cancelled epoch xs m.context.signal
    let late := ∃ d, (Binding.deadlines m.past).min? = some d ∧ d ≤ f.world.now
    (ServiceError.cancelled.code = 499 ∧ ServiceError.deadlineExceeded.code = 504) ∧
    (f.err m = some .cancelled ↔ cancelled) ∧
    (f.err m = some .deadlineExceeded ↔ ¬ cancelled ∧ late) ∧
    (f.err m = none ↔ ¬ cancelled ∧ ¬ late) ∧
    (∀ ys later, ∀ n ∈ (after epoch (xs ++ ys)).members, n.Continues m later →
      (∀ b ∈ later, b.signal? = none) →
      (f.err m ≠ none → (after epoch (xs ++ ys)).err n ≠ none) ∧
      (f.err m = some .cancelled → (after epoch (xs ++ ys)).err n = some .cancelled)) ∧
    (∀ k n, f.members[k]? = some n → n.context.signal ≠ m.context.signal →
      (f.step (.cancel k)).err m = f.err m) ∧
    f.world.issue.1 ≠ m.context.signal := by
  intro f cancelled late
  have hlate : m.context.Late f.world.now ↔ late := by
    rw [Context.Late, (after_faithful epoch xs m hm).showsPast.deadline]
  refine ⟨⟨rfl, rfl⟩, err_eq_cancelled, ?_, ?_, ?_, ?_, ?_⟩
  · rw [← hlate]
    exact err_eq_deadlineExceeded
  · rw [← hlate]
    exact err_eq_none
  · intro ys later n hn hc hl
    exact err_continues hm hn hc hl
  · intro k n hk hs
    exact err_cancel_other hk hs
  · intro he
    have hi : m.context.signal.id < f.world.issued := (after_sound epoch xs).issued m hm
    rw [← he] at hi
    exact Nat.lt_irrefl _ hi

theorem done_exactly_copy :
    let xs : List Step := [.create, .clone 0, .timeout 0 50, .create, .cancel 1]
    let ys : List Step := [.bind 0 (.deadline 20), .cancel 2, .advance 90]
    let m := (Member.new ⟨0⟩).bind (.deadline 50)
    let n := m.bind (.deadline 20)
    (m ∈ (after 0 xs).members ∧ Cancelled 0 xs m.context.signal ∧
      n ∈ (after 0 (xs ++ ys)).members ∧ n.Continues m [.deadline 20] ∧
      (∀ b ∈ [Binding.deadline 20], b.signal? = none) ∧
      (after 0 xs).members[2]? = some (.new ⟨1⟩) ∧ (⟨1⟩ : Signal) ≠ m.context.signal) ∧
    (after 0 xs).err m = some .cancelled ∧ (after 0 (xs ++ ys)).err n = some .cancelled ∧
      ((after 0 xs).step (.cancel 2)).err m = some .cancelled := by
  intro xs ys m n
  have hm : m ∈ (after 0 xs).members := List.mem_of_getElem? (i := 0) rfl
  have hn : n ∈ (after 0 (xs ++ ys)).members := List.mem_of_getElem? (i := 0) rfl
  have hc : Cancelled 0 xs m.context.signal :=
    ⟨[.create, .clone 0, .timeout 0 50, .create], .cancel 1, [], rfl, 1, .new ⟨0⟩, rfl, rfl, rfl⟩
  have hl : ∀ b ∈ [Binding.deadline 20], b.signal? = none := by simp
  have hs : (⟨1⟩ : Signal) ≠ m.context.signal := by decide
  obtain ⟨-, hcancelled, -, -, hstays, hother, -⟩ := done_exactly 0 xs m hm
  have he := hcancelled.mpr hc
  exact ⟨⟨hm, hc, hn, ⟨rfl, rfl⟩, hl, rfl, hs⟩, he,
    (hstays ys [.deadline 20] n hn ⟨rfl, rfl⟩ hl).2 he, (hother 2 (.new ⟨1⟩) rfl hs).trans he⟩

end Family

end RpcServer
