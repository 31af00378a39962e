import RpcServer.Proofs.Lineage

/-! Programs that make contexts, hand out copies and go on binding to each. Whatever else goes on, a
context shows what its own past bound first, and the earliest of its deadlines. -/

namespace RpcServer

open Trace

/-- A context that a program holds, with the signal that it was made with and what was bound to it, and
to what it is a copy of, since then. -/
structure Member where
  context : Context
  root : Signal
  past : List Binding

namespace Member

def new (s : Signal) : Member := ⟨.new s, s, []⟩

def bind (m : Member) (b : Binding) : Member := ⟨m.context.bind b, m.root, m.past ++ [b]⟩

def Continues (n m : Member) (later : List Binding) : Prop :=
  n.root = m.root ∧ n.past = m.past ++ later

def Faithful (m : Member) : Prop := m.context = (Context.new m.root).bindAll m.past

lemma new_faithful (s : Signal) : (new s).Faithful := rfl

lemma Faithful.bind {m : Member} (h : m.Faithful) (b : Binding) : (m.bind b).Faithful := by
  have hm : m.context = (Context.new m.root).bindAll m.past := h
  simp only [Faithful, Member.bind, hm, Context.bindAll, List.foldl_append, List.foldl_cons,
    List.foldl_nil]

lemma Faithful.continues {m n : Member} {later : List Binding} (hm : m.Faithful) (hn : n.Faithful)
    (h : n.Continues m later) : n.context = m.context.bindAll later := by
  have hm' : m.context = (Context.new m.root).bindAll m.past := hm
  have hn' : n.context = (Context.new n.root).bindAll n.past := hn
  rw [hn', hm', h.1, h.2, Context.bindAll, Context.bindAll, Context.bindAll, List.foldl_append]

end Member

def Binding.Known (b : Binding) (w : World) : Prop := ∀ s ∈ b.signal?, s.id < w.issued

instance (b : Binding) (w : World) : Decidable (b.Known w) :=
  inferInstanceAs (Decidable (∀ s ∈ b.signal?, s.id < w.issued))

structure Family where
  world : World
  members : List Member

namespace Family

inductive Step where
  | create
  | clone (k : ℕ)
  | bind (k : ℕ) (b : Binding)
  | timeout (k : ℕ) (ms : ℕ)
  | cancel (k : ℕ)
  | advance (ms : ℕ)

def start (epoch : ℕ) : Family := ⟨.start epoch .discard, []⟩

def give (f : Family) (k : ℕ) (b : Binding) : Family :=
  { f with members := f.members.modify k (·.bind b) }

def step (f : Family) : Step → Family
  | .create => ⟨f.world.issue.2, f.members ++ [.new f.world.issue.1]⟩
  | .clone k => { f with members := f.members ++ f.members[k]?.toList }
  | .bind k b => if b.Known f.world then f.give k b else f
  | .timeout k ms =>
    match f.world.afterMillis? ms with
    | some t => f.give k (.deadline t)
    | none => f
  | .cancel k =>
    match f.members[k]? with
    | some m => { f with world := f.world.cancel m.context.signal }
    | none => f
  | .advance ms => { f with world := f.world.moveTo (f.world.now + ms) }

def run (f : Family) (xs : List Step) : Family := xs.foldl step f

def after (epoch : ℕ) (xs : List Step) : Family := (start epoch).run xs

variable {f : Family} {m n : Member} {x : Step} {b : Binding} {k : ℕ}

lemma mem_give (h : n ∈ (f.give k b).members) :
    n ∈ f.members ∨ ∃ m ∈ f.members, n = m.bind b := by
  obtain ⟨i, hi⟩ := List.mem_iff_getElem?.mp h
  simp only [give, List.getElem?_modify, Option.map_eq_map, Option.map_eq_some_iff] at hi
  obtain ⟨m, hm, hn⟩ := hi
  have hm : m ∈ f.members := List.mem_of_getElem? hm
  split at hn
  · exact .inr ⟨m, hm, hn.symm⟩
  · exact .inl (hn ▸ hm)

lemma mem_step (h : n ∈ (f.step x).members) : n ∈ f.members ∨
    (x = .create ∧ n = .new f.world.issue.1) ∨
    ∃ m ∈ f.members, ∃ b : Binding, b.Known f.world ∧ n = m.bind b := by
  have hg : ∀ {k : ℕ} {b : Binding}, b.Known f.world → n ∈ (f.give k b).members →
      n ∈ f.members ∨ (x = .create ∧ n = .new f.world.issue.1) ∨
        ∃ m ∈ f.members, ∃ b : Binding, b.Known f.world ∧ n = m.bind b := by
    intro k b hb hn
    rcases mem_give hn with hn | ⟨m, hm, hn⟩
    · exact .inl hn
    · exact .inr (.inr ⟨m, hm, b, hb, hn⟩)
  cases x with
  | create =>
    rcases List.mem_append.mp h with h | h
    · exact .inl h
    · exact .inr (.inl ⟨rfl, List.mem_singleton.mp h⟩)
  | clone k =>
    rcases List.mem_append.mp h with h | h
    · exact .inl h
    · exact .inl (List.mem_of_getElem? (Option.mem_toList.mp h))
  | bind k b =>
    simp only [step] at h
    split at h
    · rename_i hb
      exact hg hb h
    · exact .inl h
  | timeout k ms =>
    simp only [step] at h
    split at h
    · exact hg (by rintro s ⟨⟩) h
    · exact .inl h
  | cancel k =>
    simp only [step] at h
    split at h <;> exact .inl h
  | advance ms => exact .inl h

lemma run_append (f : Family) (xs ys : List Step) : f.run (xs ++ ys) = (f.run xs).run ys :=
  List.foldl_append

lemma run_faithful (xs : List Step) (h : ∀ m ∈ f.members, m.Faithful) :
    ∀ m ∈ (f.run xs).members, m.Faithful := by
  induction xs generalizing f with
  | nil => exact h
  | cons x xs ih =>
    refine ih fun n hn => ?_
    rcases mem_step hn with hn | ⟨-, rfl⟩ | ⟨m, hm, b, -, rfl⟩
    · exact h n hn
    · exact Member.new_faithful _
    · exact (h m hm).bind b

lemma after_faithful (epoch : ℕ) (xs : List Step) : ∀ m ∈ (after epoch xs).members, m.Faithful :=
  run_faithful xs fun _ hm => absurd hm List.not_mem_nil

end Family

structure Member.ShowsPast (m : Member) : Prop where
  span : m.context.validSpan? = Binding.firstSpan m.past
  baggage : m.context.baggage = (Binding.firstBaggage m.past).getD .empty
  deadline : m.context.deadline = (Binding.deadlines m.past).min?
  untraced : Binding.firstSpan m.past = none → m.context.identity = ⟨"none", "none"⟩
  traced : ∀ s, Binding.firstSpan m.past = some s → m.context.identity = ⟨s.traceId, s.spanId⟩ ∧
    IsDigits 32 s.traceId.toList ∧ IsDigits 16 s.spanId.toList

lemma Member.Faithful.showsPast {m : Member} (h : m.Faithful) : m.ShowsPast := by
  have hm : m.context = (Context.new m.root).bindAll m.past := h
  have hs : m.context.validSpan? = Binding.firstSpan m.past := by
    rw [hm, Context.validSpan?_bindAll]
    rfl
  refine ⟨hs, ?_, ?_, ?_, ?_⟩
  · rw [hm, Context.baggage_bindAll]
    rfl
  · rw [hm, Context.deadline_bindAll]
    rfl
  · intro hn
    rw [Context.identity_eq, hs, hn]
    rfl
  · intro s hf
    have hv : s.isValid = true := (Option.filter_eq_some_iff.mp (hs.trans hf)).2
    simp only [Span.isValid, Bool.and_eq_true] at hv
    rw [Context.identity_eq, hs, hf]
    exact ⟨rfl, isDigits_of_isId hv.1, isDigits_of_isId hv.2⟩

namespace Family

/-- Bindings last: a context and all that go on from it show the first valid span and the first baggage
that were bound, and extraction adds to that and to nothing else, once. -/
theorem bindings_last (epoch : ℕ) (xs : List Step) (m : Member)
    (hm : m ∈ (after epoch xs).members) :
    m.ShowsPast ∧
    (∀ ys later, ∀ n ∈ (after epoch (xs ++ ys)).members, n.Continues m later →
      (m.context.hasValidSpan = true → n.context.span = m.context.span) ∧
      (m.context.baggage ≠ .empty → n.context.baggage = m.context.baggage)) ∧
    ∀ h, (∃ span baggage, extract m.context h =
        { m.context with span := span, baggage := baggage }) ∧
      (m.context.hasValidSpan = true → (extract m.context h).baggage = m.context.baggage) ∧
      extract (extract m.context h) h = extract m.context h := by
  have hf := after_faithful epoch xs m hm
  refine ⟨hf.showsPast, ?_, ?_⟩
  · intro ys later n hn hc
    rw [hf.continues (after_faithful epoch (xs ++ ys) n hn) hc]
    exact ⟨fun hv => Context.span_bindAll hv later, fun hb => Context.baggage_kept hb later⟩
  · intro h
    exact ⟨extract_frame m.context h, fun hv => by rw [extract_of_hasValidSpan h hv],
      extract_extract m.context h⟩

def greeting : Headers := ⟨[(.baggage, ⟨Text.Utf8.encode "user=alice".toList⟩),
  (.traceparent,
    ⟨Text.Utf8.encode "00-4bf92f3577b34da6a3ce929d0e0e4736-00f067aa0ba902b7-01".toList⟩)]⟩

theorem bindings_last_copy :
    let xs : List Step := [.create, .bind 0 (.headers greeting), .timeout 0 100, .advance 40,
      .clone 0, .timeout 1 50]
    let ys : List Step := [.bind 1 (.headers .empty), .cancel 0, .bind 1 (.baggage .empty)]
    let m := (((Member.new ⟨0⟩).bind (.headers greeting)).bind (.deadline 100)).bind (.deadline 90)
    let later : List Binding := [.headers .empty, .baggage .empty]
    let n := (m.bind (.headers .empty)).bind (.baggage .empty)
    (m ∈ (after 0 xs).members ∧ n ∈ (after 0 (xs ++ ys)).members ∧ n.Continues m later ∧
      m.context.hasValidSpan = true ∧ m.context.baggage ≠ .empty) ∧
    (m.context.deadline = some 90 ∧
      m.context.identity = ⟨"4bf92f3577b34da6a3ce929d0e0e4736", "00f067aa0ba902b7"⟩ ∧
      n.context.span = m.context.span ∧ n.context.baggage = m.context.baggage) := by
  intro xs ys m later n
  have hm : m ∈ (after 0 xs).members := List.mem_of_getElem? (i := 1) rfl
  have hn : n ∈ (after 0 (xs ++ ys)).members := List.mem_of_getElem? (i := 1) rfl
  have hc : n.Continues m later := ⟨rfl, rfl⟩
  have hv : m.context.hasValidSpan = true := by decide
  have hb : m.context.baggage ≠ .empty := by decide
  obtain ⟨hp, hl, -⟩ := bindings_last 0 xs m hm
  obtain ⟨hs, hg⟩ := hl ys later n hn hc
  exact ⟨⟨hm, hn, hc, hv, hb⟩, hp.deadline, by decide, hs hv, hg hb⟩

end Family

end RpcServer
