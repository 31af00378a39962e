import RpcServer.Proofs.FailedRequests
import RpcServer.Proofs.PatternMatching
import RpcServer.Proofs.Registrations

/-! Requests among the routes of a service. Each goes to the last registration of its method at the
path that takes it, or to one of two fallbacks, and the order of other registrations shows in nothing
but the order of the methods that an answer lists. -/

namespace RpcServer.Http

open Metrics

namespace Registration

def serving? (rs : List Registration) (method path : String) : Option Registration :=
  if method = "HEAD" then (latest? rs method path).or (latest? rs "GET" path)
  else latest? rs method path

def Takes (pattern path : String) : Prop :=
  ∃ p, Pattern.pieces? (Pattern.unescape pattern.toList) = .ok p ∧ p.Matches path.toList

def Rearranges (rs ts : List Registration) : Prop :=
  ∀ method path, under ts method path = under rs method path

variable {rs ts : List Registration} {method path : String}

lemma Rearranges.latest (h : Rearranges rs ts) : latest? ts method path = latest? rs method path := by
  rw [latest?, latest?, h]

lemma Rearranges.serving (h : Rearranges rs ts) :
    serving? ts method path = serving? rs method path := by
  simp only [serving?, h.latest]

lemma Rearranges.mem_iff (h : Rearranges rs ts) (r : Registration) : r ∈ ts ↔ r ∈ rs := by
  have hm : ∀ us : List Registration, r ∈ us ↔ r ∈ under us r.method r.path :=
    fun us => ⟨fun hr => mem_under.mpr ⟨hr, rfl, rfl⟩, fun hr => (mem_under.mp hr).1⟩
  rw [hm ts, hm rs, h]

lemma Rearranges.swap {q r : Registration} (h : q.method = r.method → q.path ≠ r.path) :
    Rearranges (q :: r :: rs) (r :: q :: rs) := by
  intro method path
  simp only [under, List.filter_cons, decide_eq_true_eq]
  split <;> split <;> try rfl
  -- both lists agree unless both registrations are of the one pair
  rename_i hr hq
  exact absurd (hq.2.trans hr.2.symm) (h (hq.1.trans hr.1.symm))

end Registration

namespace Binding

lemma collect_spec (ms done : List String) (hd : done.Nodup) :
    let all := ms.foldl (fun done m => if m ∈ done then done else done ++ [m]) done
    all.Nodup ∧ ∀ m, m ∈ all ↔ m ∈ done ∨ m ∈ ms := by
  induction ms generalizing done with
  | nil => simp [hd]
  | cons m ms ih =>
    rw [List.foldl_cons]
    by_cases hm : m ∈ done
    · rw [if_pos hm]
      obtain ⟨hn, hi⟩ := ih done hd
      refine ⟨hn, fun x => ?_⟩
      rw [hi, List.mem_cons]
      constructor
      · exact Or.imp_right .inr
      · rintro (hx | rfl | hx)
        · exact .inl hx
        · exact .inl hm
        · exact .inr hx
    · rw [if_neg hm]
      obtain ⟨hn, hi⟩ := ih (done ++ [m]) (hd.append (List.nodup_singleton m) (by simpa using hm))
      refine ⟨hn, fun x => ?_⟩
      rw [hi, List.mem_append, List.mem_singleton, List.mem_cons, or_assoc]

lemma allowed_nodup (b : Binding) : b.allowed.Nodup := (collect_spec _ [] List.nodup_nil).1

lemma mem_allowed {b : Binding} {m : String} :
    m ∈ b.allowed ↔ ∃ x ∈ b.methods, m ∈ answers x.1 := by
  rw [allowed, (collect_spec _ [] List.nodup_nil).2]
  simp

end Binding

namespace Response

lemma framed_body {r : Response} (h : r.isSuccess = false) (method : String) :
    (r.framed method).body = if method = "HEAD" then [] else r.body := by
  have hd : ∀ (n : Header.Name) (t : String), (r.default n t).body = r.body := by
    intro n t
    rw [default]
    split <;> rfl
  simp only [framed, h, Bool.false_eq_true, and_false, ↓reduceIte]
  split
  · rfl
  · exact hd _ _

lemma default_getAll_ne {n m : Header.Name} (h : m ≠ n) (t : String) (r : Response) :
    (r.default n t).headers.getAll m = r.headers.getAll m := by
  rw [default]
  split
  · rfl
  · exact Headers.getAll_insert_ne _ _ h

lemma framed_getAll {n : Header.Name} (h : n ≠ .contentLength) (method : String) (r : Response) :
    (r.framed method).headers.getAll n = r.headers.getAll n := by
  simp only [framed]
  split
  · rfl
  · split <;> exact default_getAll_ne h _ r

end Response

namespace Service

open Registration

def matched? (s : Service) (path : String) : Option String :=
  (s.routes.find? path.toList).map (·.path)

structure Declines (s : Service) (limit : Instant) (r : Request) (w : World) (measures : Bool)
    (status : ℕ) (code : Int32) (reason message : String) : Prop where
  response : ∃ response, (s.respond limit r w).1 = some response ∧ response.status = status ∧
    response.body = if r.method = "HEAD" then [] else Reply.Envelope.codeBody code
  effects : (s.respond limit r w).2 = w.after
    ((if measures then [.recorded (.failure r.method r.uri.path reason)] else []) ++
      [.logged (Fallback.event message r.method r.uri.path)])

/-- Two answers to a request are the same but for the order in which methods are listed for one that
has the wrong one. -/
inductive AlikeButOrder (code : Int32) (method : String) : Option Response → Option Response → Prop
  where
  | same (o : Option Response) : AlikeButOrder code method o o
  | listed {ms ns : List String} : ms.Perm ns → AlikeButOrder code method
      (some (((Fallback.codeOnly 405 code).default .allow (String.intercalate "," ms)).framed method))
      (some (((Fallback.codeOnly 405 code).default .allow (String.intercalate "," ns)).framed method))

variable {s t : Service} {base : Builder} {rs ts : List Registration} {b : Binding}
  {limit : Instant} {r : Request} {w : World} {path : String}

lemma report_after (f : Fallback) (reason message method path : String) (w : World) :
    f.report reason message method path w = w.after
      ((if f.measures then [.recorded (.failure method path reason)] else []) ++
        [.logged (Fallback.event message method path)]) := by
  rw [Fallback.report, World.after_append]
  split
  · rfl
  · rw [World.after_nil]
    rfl

lemma declines_nowhere (hd : s.destination r.method r.uri.path = .nowhere) (limit : Instant)
    (w : World) :
    s.Declines limit r w s.fallback.measures 404 s.fallback.notFoundCode notFound
      "Route not found" := by
  have hr : s.respond limit r w = (some ((Fallback.codeOnly 404 s.fallback.notFoundCode).framed
      r.method), s.fallback.report notFound "Route not found" r.method r.uri.path w) := by
    simp only [respond, answer, hd]
    rfl
  refine ⟨⟨_, congrArg Prod.fst hr, Response.framed_status _ _, ?_⟩, ?_⟩
  · rw [Response.framed_body rfl]
    rfl
  · rw [hr, report_after]

lemma respond_wrongMethod {ms : List String}
    (hd : s.destination r.method r.uri.path = .wrongMethod ms) (limit : Instant) (w : World) :
    s.respond limit r w =
      (some (((Fallback.codeOnly 405 s.fallback.methodNotAllowedCode).default .allow
        (String.intercalate "," ms)).framed r.method),
      s.fallback.report methodNotAllowed "Method not allowed" r.method r.uri.path w) := by
  simp only [respond, answer, hd]
  rfl

lemma declines_wrongMethod {ms : List String}
    (hd : s.destination r.method r.uri.path = .wrongMethod ms) (limit : Instant) (w : World) :
    s.Declines limit r w s.fallback.measures 405 s.fallback.methodNotAllowedCode methodNotAllowed
      "Method not allowed" := by
  have hr := respond_wrongMethod hd limit w
  refine ⟨⟨_, congrArg Prod.fst hr, Response.framed_status _ _, ?_⟩, ?_⟩
  · rw [Response.framed_body rfl]
    rfl
  · rw [hr, report_after]

lemma respond_congr (hd : t.destination r.method r.uri.path = s.destination r.method r.uri.path)
    (hdisp : t.dispatcher = s.dispatcher) (hfall : t.fallback = s.fallback) :
    t.respond limit r w = s.respond limit r w := by
  simp only [respond, answer, hd, hdisp, hfall]

lemma binding_of_matched {p : String} (hm : s.matched? path = some p) :
    ∃ b ∈ s.bindings, b.path = p ∧ s.routes.find? path.toList = some b := by
  obtain ⟨b, hf, rfl⟩ := Option.map_eq_some_iff.mp hm
  obtain ⟨p, hp, -⟩ := Routes.find?_sound hf
  obtain ⟨c, hc, he⟩ := List.mem_map.mp hp
  exact ⟨b, (Prod.mk.inj he).2 ▸ hc, rfl, hf⟩

lemma destination_unmatched (hm : s.matched? path = none) (method : String) :
    s.destination method path = .nowhere := by
  simp only [matched?, Option.map_eq_none_iff] at hm
  simp only [destination, hm]

structure Made (base : Builder) (rs : List Registration) (s : Service) : Prop where
  holds : Holds s.bindings (rs.foldl Builder.route base).registrations
  kept : ∀ method path, under (rs.foldl Builder.route base).registrations method path =
    (latest? rs method path).toList
  dispatcher : s.dispatcher = base.dispatcher
  fallback : s.fallback = .ofConfig base.config.responses base.measures

lemma made_of_build (hb : base.registrations = [])
    (hs : (rs.foldl Builder.route base).build = .ok s) : Made base rs s := by
  simp only [Builder.build] at hs
  cases hbs : bindAll [] (rs.foldl Builder.route base).registrations with
  | error e => simp [hbs, Except.map] at hs
  | ok bs =>
    simp only [hbs, Except.map, Except.ok.injEq] at hs
    have he := Builder.routes_eq rs base
    subst hs
    refine ⟨Holds.nil.bindAll hbs, Builder.kept_under hb rs, ?_, ?_⟩
    · rw [he]
      rfl
    · rw [he]

namespace Made

lemma exists_iff (h : Made base rs s) {method path : String} :
    (∃ q ∈ (rs.foldl Builder.route base).registrations, q.method = method ∧ q.path = path) ↔
      ∃ q ∈ rs, q.method = method ∧ q.path = path := by
  rw [← latest_isSome, ← latest_isSome, latest?, h.kept]
  cases latest? rs method path <;> rfl

lemma path_iff (h : Made base rs s) {path : String} :
    (∃ q ∈ (rs.foldl Builder.route base).registrations, q.path = path) ↔
      ∃ q ∈ rs, q.path = path := by
  constructor
  · rintro ⟨q, hq, hp⟩
    obtain ⟨q', hq', -, hp'⟩ := h.exists_iff.mp ⟨q, hq, rfl, hp⟩
    exact ⟨q', hq', hp'⟩
  · rintro ⟨q, hq, hp⟩
    obtain ⟨q', hq', -, hp'⟩ := h.exists_iff.mpr ⟨q, hq, rfl, hp⟩
    exact ⟨q', hq', hp'⟩

lemma own (h : Made base rs s) (hb : b ∈ s.bindings) (method : String) :
    (b.methods.find? fun m => m.1 = method).map (·.2) =
      (latest? rs method b.path).map (·.route) := by
  rw [h.holds.own hb, h.kept]
  cases latest? rs method b.path <;> rfl

lemma route (h : Made base rs s) (hb : b ∈ s.bindings) (method : String) :
    b.route? method = (serving? rs method b.path).map (·.route) := by
  simp only [Binding.route?, serving?, h.own hb]
  split
  · rw [Option.map_or]
  · rfl

lemma mem_paths (h : Made base rs s) {p : Pattern} {path : String} :
    (p, path) ∈ s.routes.mapValues (·.path) ↔ (∃ q ∈ rs, q.path = path) ∧
      Pattern.pieces? (Pattern.unescape path.toList) = .ok p := by
  simp only [Routes.mapValues, routes, List.map_map, List.mem_map, Function.comp_apply,
    Prod.mk.injEq]
  rw [← h.path_iff]
  constructor
  · rintro ⟨b, hb, rfl, rfl⟩
    exact ⟨h.holds.used b hb, h.holds.patterns b hb⟩
  · rintro ⟨⟨q, hq, rfl⟩, hp⟩
    obtain ⟨b, hb, hbq⟩ := h.holds.bound q hq
    refine ⟨b, hb, ?_, hbq⟩
    exact Except.ok.inj ((h.holds.patterns b hb).symm.trans (hbq ▸ hp))

lemma apart (h : Made base rs s) : (s.routes.mapValues (·.path)).Apart := by
  simp only [Routes.mapValues, routes, List.map_map]
  intro x hx y hy hc
  obtain ⟨b, hb, rfl⟩ := List.mem_map.mp hx
  obtain ⟨c, hc', rfl⟩ := List.mem_map.mp hy
  rw [h.holds.eq_of_conflicts hb hc' hc]

lemma takes_of_matched (h : Made base rs s) {p : String} (hm : s.matched? path = some p) :
    (∃ q ∈ rs, q.path = p) ∧ Takes p path := by
  rw [matched?, ← Routes.find?_mapValues] at hm
  obtain ⟨pattern, hp, hmatch⟩ := Routes.find?_sound hm
  obtain ⟨hq, hread⟩ := h.mem_paths.mp hp
  exact ⟨hq, pattern, hread, hmatch⟩

lemma not_takes_of_unmatched (h : Made base rs s) (hm : s.matched? path = none)
    {q : Registration} (hq : q ∈ rs) : ¬ Takes q.path path := by
  rw [matched?, ← Routes.find?_mapValues] at hm
  rintro ⟨p, hp, hmatch⟩
  exact Routes.find?_complete hm (h.mem_paths.mpr ⟨⟨q, hq, rfl⟩, hp⟩) hmatch

lemma destination_matched (h : Made base rs s) {p : String} (hm : s.matched? path = some p)
    (method : String) : ∃ b ∈ s.bindings, b.path = p ∧ s.destination method path =
      (serving? rs method p).elim (.wrongMethod b.allowed) fun q => .route q.route := by
  obtain ⟨b, hb, rfl, hf⟩ := binding_of_matched hm
  refine ⟨b, hb, rfl, ?_⟩
  simp only [destination, hf, h.route hb]
  cases serving? rs method b.path <;> rfl

lemma mem_allowed (h : Made base rs s) (hb : b ∈ s.bindings) {m : String} :
    m ∈ b.allowed ↔ ∃ q ∈ rs, q.path = b.path ∧ m ∈ Binding.answers q.method := by
  rw [Binding.mem_allowed, h.holds.methods b hb]
  simp only [List.mem_map, List.mem_filter, decide_eq_true_eq]
  constructor
  · rintro ⟨x, ⟨q, ⟨hq, hp⟩, rfl⟩, ha⟩
    obtain ⟨q', hq', hm', hp'⟩ := h.exists_iff.mp ⟨q, hq, rfl, hp⟩
    exact ⟨q', hq', hp', hm' ▸ ha⟩
  · rintro ⟨q, hq, hp, ha⟩
    obtain ⟨q', hq', hm', hp'⟩ := h.exists_iff.mpr ⟨q, hq, rfl, hp⟩
    exact ⟨_, ⟨q', ⟨hq', hp'⟩, rfl⟩, hm' ▸ ha⟩

lemma matched_congr (h : Made base rs s) (k : Made base ts t) (hr : Rearranges rs ts)
    (path : String) : t.matched? path = s.matched? path := by
  simp only [matched?, ← Routes.find?_mapValues]
  apply k.apart.find?_congr
  rintro ⟨p, q⟩
  simp only [h.mem_paths, k.mem_paths, hr.mem_iff]

lemma allowed_perm (h : Made base rs s) (k : Made base ts t) (hr : Rearranges rs ts)
    {c : Binding} (hb : b ∈ s.bindings) (hc : c ∈ t.bindings) (hp : c.path = b.path) :
    b.allowed.Perm c.allowed := by
  rw [List.perm_ext_iff_of_nodup b.allowed_nodup c.allowed_nodup]
  intro m
  simp only [h.mem_allowed hb, k.mem_allowed hc, hr.mem_iff, hp]

lemma respond_served (h : Made base rs s) {p : String} (hm : s.matched? r.uri.path = some p)
    {q : Registration} (hq : serving? rs r.method p = some q) : s.respond limit r w =
      let (o, v) := base.dispatcher.dispatch limit q.route r w
      ((recover o v).1.map (·.framed r.method), (recover o v).2) := by
  obtain ⟨b, -, -, hd⟩ := h.destination_matched hm r.method
  rw [hq] at hd
  rw [respond_of_route hd, h.dispatcher]

lemma declines_unserved (h : Made base rs s) {p : String} (hm : s.matched? r.uri.path = some p)
    (hq : serving? rs r.method p = none) : s.Declines limit r w base.measures 405
      base.config.responses.methodNotAllowedCode methodNotAllowed "Method not allowed" := by
  obtain ⟨b, -, -, hd⟩ := h.destination_matched hm r.method
  rw [hq] at hd
  have hdec := declines_wrongMethod hd limit w
  rwa [h.fallback] at hdec

lemma declines_unmatched (h : Made base rs s) (hm : s.matched? r.uri.path = none) :
    s.Declines limit r w base.measures 404 base.config.responses.notFoundCode notFound
      "Route not found" := by
  have hd := declines_nowhere (destination_unmatched hm r.method) limit w
  rwa [h.fallback] at hd

lemma respond_rearranged (h : Made base rs s) (k : Made base ts t) (hr : Rearranges rs ts) :
    (t.respond limit r w).2 = (s.respond limit r w).2 ∧
      AlikeButOrder base.config.responses.methodNotAllowedCode r.method
        (s.respond limit r w).1 (t.respond limit r w).1 := by
  have hdisp : t.dispatcher = s.dispatcher := k.dispatcher.trans h.dispatcher.symm
  have hfall : t.fallback = s.fallback := k.fallback.trans h.fallback.symm
  have hsame : t.destination r.method r.uri.path = s.destination r.method r.uri.path →
      (t.respond limit r w).2 = (s.respond limit r w).2 ∧
      AlikeButOrder base.config.responses.methodNotAllowedCode r.method
        (s.respond limit r w).1 (t.respond limit r w).1 := by
    intro hd
    rw [respond_congr hd hdisp hfall]
    exact ⟨rfl, .same _⟩
  have hmt := matched_congr h k hr r.uri.path
  -- only a path that is taken under another method lists its methods
  cases hm : s.matched? r.uri.path with
  | none =>
    apply hsame
    rw [destination_unmatched hm, destination_unmatched (hmt.trans hm)]
  | some p =>
    obtain ⟨b, hb, hbp, hds⟩ := h.destination_matched hm r.method
    obtain ⟨c, hc, hcp, hdt⟩ := k.destination_matched (hmt.trans hm) r.method
    rw [hr.serving] at hdt
    cases hq : serving? rs r.method p with
    | some q =>
      rw [hq] at hds hdt
      exact hsame (hdt.trans hds.symm)
    | none =>
      rw [hq] at hds hdt
      rw [respond_wrongMethod hds, respond_wrongMethod hdt, hfall, h.fallback]
      exact ⟨rfl, .listed (allowed_perm h k hr hb hc (hcp.trans hbp.symm))⟩

end Made

/-- An accepted sequence of routes divides all requests. One whose path no registered path takes is
not found. Any other goes, by its method, to the last registration at the path that takes it, and to
no other; or the method is not allowed there. A rearranged sequence answers all requests alike, but
for the order in which methods are listed. -/
theorem routes_partition (base : Builder) (hb : base.registrations = [])
    (rs : List Registration) (s : Service) (hs : (rs.foldl Builder.route base).build = .ok s) :
    (∀ limit r w, s.matched? r.uri.path = none →
      (∀ q ∈ rs, ¬ Takes q.path r.uri.path) ∧
      s.Declines limit r w base.measures 404 base.config.responses.notFoundCode notFound
        "Route not found") ∧
    (∀ limit r w path, s.matched? r.uri.path = some path →
      ((∃ q ∈ rs, q.path = path) ∧ Takes path r.uri.path) ∧
      (∀ q, serving? rs r.method path = some q → s.respond limit r w =
        let (o, v) := base.dispatcher.dispatch limit q.route r w
        ((recover o v).1.map (·.framed r.method), (recover o v).2)) ∧
      (serving? rs r.method path = none → s.Declines limit r w base.measures 405
        base.config.responses.methodNotAllowedCode methodNotAllowed "Method not allowed")) ∧
    ∀ ts t, (ts.foldl Builder.route base).build = .ok t → Rearranges rs ts → ∀ limit r w,
      (t.respond limit r w).2 = (s.respond limit r w).2 ∧
      AlikeButOrder base.config.responses.methodNotAllowedCode r.method
        (s.respond limit r w).1 (t.respond limit r w).1 := by
  have h := made_of_build hb hs
  refine ⟨fun _ _ _ hm => ⟨fun _ => h.not_takes_of_unmatched hm, h.declines_unmatched hm⟩,
    fun _ _ _ path hm => ⟨h.takes_of_matched hm, fun _ => h.respond_served hm, h.declines_unserved hm⟩,
    fun ts t ht hr _ _ _ => h.respond_rearranged (made_of_build hb ht) hr⟩

def echo (operation : String) : Route := ⟨operation, .any, fun _ v => .reply (.document v)⟩

lemma root_of_routes (hne : (rs.foldl Builder.route base).registrations ≠ [])
    (hr : ∀ r ∈ (rs.foldl Builder.route base).registrations, r.AtRoot) :
    (rs.foldl Builder.route base).build = .ok (.atRoot (rs.foldl Builder.route base)) ∧
      (atRoot (rs.foldl Builder.route base)).matched? "/" = some "/" := by
  refine ⟨Builder.build_root hne hr, ?_⟩
  rw [matched?, find?_root _ rfl]
  rfl

theorem routes_partition_replaced :
    let base := Builder.new {}
    let rs : List Registration := [⟨"POST", "/", echo "/Old"⟩, ⟨"GET", "/", echo "/Get"⟩,
      ⟨"POST", "/", echo "/New"⟩]
    let s := atRoot (rs.foldl Builder.route base)
    let w := World.start 0 .discard
    (base.registrations = [] ∧ (rs.foldl Builder.route base).build = .ok s) ∧
      (s.respond 9 posted w = let (o, v) := base.dispatcher.dispatch 9 (echo "/New") posted w
        ((recover o v).1.map (·.framed posted.method), (recover o v).2)) ∧
      s.Declines 9 { posted with method := "DELETE" } w false 405 405 methodNotAllowed
        "Method not allowed" := by
  intro base rs s w
  have hall : ∀ r ∈ (rs.foldl Builder.route base).registrations, r.AtRoot := by
    simp [rs, base, Builder.route, Builder.new, Registration.AtRoot, supportedMethods]
  have hne : (rs.foldl Builder.route base).registrations ≠ [] := List.cons_ne_nil _ _
  obtain ⟨hs, hm⟩ := root_of_routes hne hall
  have hparts := (routes_partition base rfl rs s hs).2.1
  obtain ⟨-, hserved, -⟩ := hparts 9 posted w "/" hm
  obtain ⟨-, -, hdeclined⟩ := hparts 9 { posted with method := "DELETE" } w "/" hm
  exact ⟨⟨rfl, hs⟩, hserved ⟨"POST", "/", echo "/New"⟩ rfl, hdeclined rfl⟩

lemma listed_allow (code : Int32) (ms : List String) (method : String) :
    (((Fallback.codeOnly 405 code).default .allow (String.intercalate "," ms)).framed
      method).headers.getAll .allow = [⟨Text.Utf8.encode (String.intercalate "," ms).toList⟩] := by
  have hc : (Fallback.codeOnly 405 code).headers.contains .allow = false := rfl
  rw [Response.framed_getAll (by decide), Response.default, hc]
  exact Headers.getAll_insert_self _ _ _

/-- The order in which the methods of a path are registered is the order in which they are listed. -/
theorem listing_shows_order :
    let base := Builder.new {}
    let rs : List Registration := [⟨"POST", "/", echo "/Post"⟩, ⟨"GET", "/", echo "/Get"⟩]
    let ts : List Registration := [⟨"GET", "/", echo "/Get"⟩, ⟨"POST", "/", echo "/Post"⟩]
    let s := atRoot (rs.foldl Builder.route base)
    let t := atRoot (ts.foldl Builder.route base)
    let r : Request := { posted with method := "DELETE" }
    let w := World.start 0 .discard
    (rs.foldl Builder.route base).build = .ok s ∧ (ts.foldl Builder.route base).build = .ok t ∧
      Rearranges rs ts ∧ (s.respond 9 r w).1 ≠ (t.respond 9 r w).1 := by
  intro base rs ts s t r w
  have hrs : ∀ r ∈ (rs.foldl Builder.route base).registrations, r.AtRoot := by
    simp [rs, base, Builder.route, Builder.new, Registration.AtRoot, supportedMethods]
  have hts : ∀ r ∈ (ts.foldl Builder.route base).registrations, r.AtRoot := by
    simp [ts, base, Builder.route, Builder.new, Registration.AtRoot, supportedMethods]
  have hsne : (rs.foldl Builder.route base).registrations ≠ [] := List.cons_ne_nil _ _
  have htne : (ts.foldl Builder.route base).registrations ≠ [] := List.cons_ne_nil _ _
  have hds : s.destination r.method r.uri.path = .wrongMethod ["POST", "GET", "HEAD"] :=
    destination_root [("POST", echo "/Post"), ("GET", echo "/Get")] rfl "DELETE"
  have hdt : t.destination r.method r.uri.path = .wrongMethod ["GET", "HEAD", "POST"] :=
    destination_root [("GET", echo "/Get"), ("POST", echo "/Post")] rfl "DELETE"
  refine ⟨(root_of_routes hsne hrs).1, (root_of_routes htne hts).1, .swap (by simp), ?_⟩
  rw [respond_wrongMethod hds, respond_wrongMethod hdt]
  intro he
  have ha := congrArg (fun r : Response => r.headers.getAll .allow) (Option.some.inj he)
  simp only [listed_allow, List.cons.injEq, Header.Value.mk.injEq, and_true] at ha
  exact absurd ha (by decide)

end Service

end RpcServer.Http
