import Mathlib.Data.List.Nodup
import Mathlib.Data.List.Pairwise
import Mathlib.Tactic.Common
import RpcServer.Http.Service

/-! From the registrations of a builder to the bindings of its service. The last registration of a
method at a path is the one that is kept, and each binding holds those of its path. -/

namespace RpcServer.Http

namespace Registration

def under (rs : List Registration) (method path : String) : List Registration :=
  rs.filter fun r => r.method = method ∧ r.path = path

def latest? (rs : List Registration) (method path : String) : Option Registration :=
  (under rs method path).getLast?

variable {rs ts : List Registration} {r q : Registration} {method path : String}

lemma mem_under : r ∈ under rs method path ↔ r ∈ rs ∧ r.method = method ∧ r.path = path := by
  simp [under]

lemma latest_cons (r : Registration) (rs : List Registration) (method path : String) :
    latest? (r :: rs) method path =
      (latest? rs method path).or (if r.method = method ∧ r.path = path then some r else none) := by
  simp only [latest?, under, List.filter_cons, decide_eq_true_eq]
  split
  · rw [List.getLast?_cons, ← Option.or_some]
  · rw [Option.or_none]

lemma latest_isSome : (latest? rs method path).isSome ↔
    ∃ r ∈ rs, r.method = method ∧ r.path = path := by
  rw [latest?, List.getLast?_isSome, ← List.length_pos_iff, List.length_pos_iff_exists_mem]
  simp only [mem_under]

end Registration

namespace Builder

open Registration

lemma route_under (b : Builder) (r : Registration) (method path : String) :
    under (b.route r).registrations method path =
      if r.method = method ∧ r.path = path then [r] else under b.registrations method path := by
  simp only [under, route, List.filter_append, List.filter_filter, List.filter_cons, List.filter_nil,
    decide_eq_true_eq]
  split
  · rename_i h
    obtain ⟨rfl, rfl⟩ := h
    rw [List.filter_eq_nil_iff.mpr fun q _ => by simp, List.nil_append]
  · rename_i h
    rw [List.append_nil]
    refine List.filter_congr fun q _ => ?_
    by_cases hq : q.method = method ∧ q.path = path
    · obtain ⟨rfl, rfl⟩ := hq
      have hr : q.method = r.method → q.path ≠ r.path := fun hm hp => h ⟨hm.symm, hp.symm⟩
      simpa using not_or_of_imp hr
    · simp [hq]

lemma routes_under (rs : List Registration) (b : Builder) (method path : String) :
    under (rs.foldl route b).registrations method path =
      (latest? rs method path).elim (under b.registrations method path) fun r => [r] := by
  induction rs generalizing b with
  | nil => rfl
  | cons r rs ih =>
    rw [List.foldl_cons, ih, latest_cons, route_under]
    cases latest? rs method path with
    | some q => rfl
    | none => split <;> rfl

lemma kept_under {b : Builder} (hb : b.registrations = []) (rs : List Registration)
    (method path : String) :
    under (rs.foldl route b).registrations method path = (latest? rs method path).toList := by
  rw [routes_under, hb]
  cases latest? rs method path <;> rfl

lemma routes_eq (rs : List Registration) (b : Builder) :
    rs.foldl route b = { b with registrations := (rs.foldl route b).registrations } := by
  induction rs generalizing b with
  | nil => rfl
  | cons r rs ih => exact ih (b.route r)

end Builder

lemma Pattern.accept_eq_ok {known : List Pattern} {path : String} {p : Pattern}
    (h : accept known path = .ok p) :
    pieces? (unescape path.toList) = .ok p ∧ ∀ q ∈ known, conflicts p q = false := by
  simp only [accept] at h
  split at h
  · contradiction
  split at h
  · contradiction
  rename_i q hq hc
  split at h
  · obtain rfl := Except.ok.inj h
    exact ⟨hq, by simpa using hc⟩
  · contradiction

namespace Binding

def extend (r : Registration) (b : Binding) : Binding :=
  if b.path = r.path then { b with methods := b.methods ++ [(r.method, r.route)] } else b

lemma extend_path (r : Registration) (b : Binding) : (b.extend r).path = b.path := by
  rw [extend]
  split <;> rfl

lemma extend_pattern (r : Registration) (b : Binding) : (b.extend r).pattern = b.pattern := by
  rw [extend]
  split <;> rfl

def root (methods : List (String × Route)) : Binding := ⟨"/", [.literal '/'], methods⟩

end Binding

structure Holds (bs : List Binding) (rs : List Registration) : Prop where
  methods : ∀ b ∈ bs, b.methods =
    (rs.filter fun r => r.path = b.path).map fun r => (r.method, r.route)
  bound : ∀ r ∈ rs, ∃ b ∈ bs, b.path = r.path
  used : ∀ b ∈ bs, ∃ r ∈ rs, r.path = b.path
  patterns : ∀ b ∈ bs, Pattern.pieces? (Pattern.unescape b.path.toList) = .ok b.pattern
  apart : bs.Pairwise fun b c => Pattern.conflicts b.pattern c.pattern = false

lemma bind_eq_ok {bs cs : List Binding} {r : Registration} (h : bind bs r = .ok cs) :
    ((∃ b ∈ bs, b.path = r.path) ∧ cs = bs.map (Binding.extend r)) ∨
    ((∀ b ∈ bs, b.path ≠ r.path) ∧ ∃ p,
      Pattern.pieces? (Pattern.unescape r.path.toList) = .ok p ∧
      (∀ b ∈ bs, Pattern.conflicts p b.pattern = false) ∧
      cs = bs ++ [⟨r.path, p, [(r.method, r.route)]⟩]) := by
  simp only [bind] at h
  split at h
  · contradiction
  split at h
  · rename_i hb
    exact .inl ⟨by simpa using hb, (Except.ok.inj h).symm⟩
  · rename_i hb
    refine .inr ⟨by simpa using hb, ?_⟩
    split at h
    · contradiction
    split at h
    · contradiction
    rename_i p hp
    obtain ⟨hr, hc⟩ := Pattern.accept_eq_ok hp
    exact ⟨p, hr, by simpa using hc, (Except.ok.inj h).symm⟩

variable {bs cs : List Binding} {rs ts : List Registration} {r : Registration}

lemma Holds.nil : Holds [] [] := by
  constructor <;> simp

lemma Holds.extend (h : Holds bs rs) (hb : ∃ b ∈ bs, b.path = r.path) :
    Holds (bs.map (Binding.extend r)) (rs ++ [r]) where
  methods := by
    intro c hc
    obtain ⟨b, hb, rfl⟩ := List.mem_map.mp hc
    rw [Binding.extend_path, List.filter_append, List.map_append, ← h.methods b hb, Binding.extend]
    split
    · rename_i hp
      simp [hp]
    · rename_i hp
      simp [Ne.symm hp]
  bound := by
    intro q hq
    rcases List.mem_append.mp hq with hq | hq
    · obtain ⟨b, hb, hp⟩ := h.bound q hq
      exact ⟨_, List.mem_map_of_mem hb, (b.extend_path r).trans hp⟩
    · obtain ⟨b, hb, hp⟩ := hb
      rw [List.mem_singleton.mp hq]
      exact ⟨_, List.mem_map_of_mem hb, (b.extend_path r).trans hp⟩
  used := by
    intro c hc
    obtain ⟨b, hb, rfl⟩ := List.mem_map.mp hc
    obtain ⟨q, hq, hp⟩ := h.used b hb
    exact ⟨q, List.mem_append_left _ hq, hp.trans (b.extend_path r).symm⟩
  patterns := by
    intro c hc
    obtain ⟨b, hb, rfl⟩ := List.mem_map.mp hc
    rw [Binding.extend_path, Binding.extend_pattern]
    exact h.patterns b hb
  apart := by
    simp only [List.pairwise_map, Binding.extend_pattern]
    exact h.apart

lemma Holds.add (h : Holds bs rs) (hn : ∀ b ∈ bs, b.path ≠ r.path) {p : Pattern}
    (hp : Pattern.pieces? (Pattern.unescape r.path.toList) = .ok p)
    (hc : ∀ b ∈ bs, Pattern.conflicts p b.pattern = false) :
    Holds (bs ++ [⟨r.path, p, [(r.method, r.route)]⟩]) (rs ++ [r]) where
  methods := by
    intro b hb
    rw [List.filter_append, List.map_append]
    rcases List.mem_append.mp hb with hb | hb
    · rw [← h.methods b hb]
      simp [Ne.symm (hn b hb)]
    · obtain rfl := List.mem_singleton.mp hb
      -- a registration of this path would have had its binding
      have hnone : ∀ q ∈ rs, q.path ≠ r.path := by
        intro q hq he
        obtain ⟨b, hb, hp⟩ := h.bound q hq
        exact hn b hb (hp.trans he)
      rw [List.filter_eq_nil_iff.mpr fun q hq => by simpa using hnone q hq]
      simp
  bound := by
    intro q hq
    rcases List.mem_append.mp hq with hq | hq
    · obtain ⟨b, hb, hp⟩ := h.bound q hq
      exact ⟨b, List.mem_append_left _ hb, hp⟩
    · rw [List.mem_singleton.mp hq]
      exact ⟨_, List.mem_append_right _ (List.mem_singleton_self _), rfl⟩
  used := by
    intro b hb
    rcases List.mem_append.mp hb with hb | hb
    · obtain ⟨q, hq, hp⟩ := h.used b hb
      exact ⟨q, List.mem_append_left _ hq, hp⟩
    · obtain rfl := List.mem_singleton.mp hb
      exact ⟨r, List.mem_append_right _ (List.mem_singleton_self r), rfl⟩
  patterns := by
    intro b hb
    rcases List.mem_append.mp hb with hb | hb
    · exact h.patterns b hb
    · obtain rfl := List.mem_singleton.mp hb
      exact hp
  apart := by
    refine List.pairwise_append.mpr ⟨h.apart, List.pairwise_singleton _ _, ?_⟩
    intro b hb c hm
    obtain rfl := List.mem_singleton.mp hm
    rw [Pattern.conflicts_comm]
    exact hc b hb

lemma Holds.bind (h : Holds bs rs) (hb : bind bs r = .ok cs) : Holds cs (rs ++ [r]) := by
  rcases bind_eq_ok hb with ⟨he, rfl⟩ | ⟨hn, p, hp, hc, rfl⟩
  · exact h.extend he
  · exact h.add hn hp hc

lemma Holds.bindAll (h : Holds bs rs) (hb : bindAll bs ts = .ok cs) : Holds cs (rs ++ ts) := by
  induction ts generalizing bs rs with
  | nil =>
    obtain rfl := Except.ok.inj hb
    rwa [List.append_nil]
  | cons r ts ih =>
    simp only [Http.bindAll] at hb
    split at hb
    · rename_i ds hd
      rw [List.append_cons]
      exact ih (h.bind hd) hb
    · contradiction

lemma Holds.own (h : Holds bs rs) {b : Binding} (hb : b ∈ bs) (method : String) :
    (b.methods.find? fun m => m.1 = method).map (·.2) =
      (Registration.under rs method b.path).head?.map (·.route) := by
  rw [h.methods b hb, List.find?_map, Option.map_map, Registration.under, List.head?_filter,
    List.find?_filter]
  simp only [Function.comp_def, Bool.decide_and, Bool.decide_eq_true, Bool.and_comm]

lemma Holds.eq_of_conflicts (h : Holds bs rs) {b c : Binding} (hb : b ∈ bs) (hc : c ∈ bs)
    (hbc : Pattern.conflicts b.pattern c.pattern = true) : b = c := by
  by_contra hne
  have : Std.Symm fun b c : Binding => Pattern.conflicts b.pattern c.pattern = false :=
    ⟨fun b c hf => (Pattern.conflicts_comm _ _).trans hf⟩
  have hf := h.apart.forall hb hc hne
  simp [hbc] at hf

def Registration.AtRoot (r : Registration) : Prop := r.method ∈ supportedMethods ∧ r.path = "/"

lemma bind_root (hr : r.AtRoot) : bind [] r = .ok [.root [(r.method, r.route)]] := by
  obtain ⟨hm, hp⟩ := hr
  have ha : Pattern.accept [] "/" = .ok [.literal '/'] := by
    simp [Pattern.accept, Pattern.unescape, Pattern.pieces?, Except.map, Pattern.restIsLast]
  have hf : pathFault? "/" = none := by decide
  simp [bind, hm, hp, hf, ha, Binding.root]

lemma bind_root_again (ms : List (String × Route)) (hr : r.AtRoot) :
    bind [.root ms] r = .ok [.root (ms ++ [(r.method, r.route)])] := by
  simp [bind, hr.1, hr.2, Binding.root]

lemma bindAll_root_again (ms : List (String × Route)) (hr : ∀ r ∈ rs, r.AtRoot) :
    bindAll [.root ms] rs = .ok [.root (ms ++ rs.map fun r => (r.method, r.route))] := by
  induction rs generalizing ms with
  | nil => rw [List.map_nil, List.append_nil, bindAll]
  | cons r rs ih =>
    rw [bindAll, bind_root_again ms (hr r List.mem_cons_self)]
    exact (ih _ fun q hq => hr q (List.mem_cons_of_mem r hq)).trans (by simp)

lemma bindAll_root (hne : rs ≠ []) (hr : ∀ r ∈ rs, r.AtRoot) :
    bindAll [] rs = .ok [.root (rs.map fun r => (r.method, r.route))] := by
  obtain ⟨r, rs, rfl⟩ := List.exists_cons_of_ne_nil hne
  rw [bindAll, bind_root (hr r List.mem_cons_self)]
  exact bindAll_root_again _ fun q hq => hr q (List.mem_cons_of_mem r hq)

def Service.atRoot (b : Builder) : Service :=
  ⟨b.dispatcher, .ofConfig b.config.responses b.measures,
    [.root (b.registrations.map fun r => (r.method, r.route))]⟩

lemma Builder.build_root {b : Builder} (hne : b.registrations ≠ [])
    (hr : ∀ r ∈ b.registrations, r.AtRoot) : b.build = .ok (.atRoot b) := by
  rw [build, bindAll_root hne hr]
  rfl

namespace Service

variable {s : Service} (ms : List (String × Route))

lemma find?_root (hs : s.bindings = [.root ms]) : s.routes.find? "/".toList = some (.root ms) := by
  simp [routes, hs, Binding.root, Routes.find?, Routes.after, Routes.ended]

lemma destination_root (hs : s.bindings = [.root ms]) (method : String) : s.destination method "/" =
    ((Binding.root ms).route? method).elim (.wrongMethod (Binding.root ms).allowed) .route := by
  simp only [destination, find?_root ms hs]
  cases (Binding.root ms).route? method <;> rfl

end Service

end RpcServer.Http
