import RpcServer.Proofs.Dict
import RpcServer.Proofs.SpanPropagation

/-! Baggage on its way from one server to the next. Each member that was read can be written and read
again, but the bound on the size of what is read does not count the separators that are written. -/

namespace RpcServer

open Text

namespace Trace

namespace Baggage

structure Portable (m : String × String) : Prop where
  visible : ∀ c ∈ renderMember m, isVisible c = true
  comma : ',' ∉ renderMember m
  semicolon : ';' ∉ renderMember m
  equals : '=' ∉ m.1.toList
  named : m.1.toList ≠ []
  key : trim m.1.toList = m.1.toList
  value : trim m.2.toList = m.2.toList

structure Transportable (b : Baggage) : Prop where
  members : ∀ m ∈ b.entries, Portable m
  size : b.size ≤ maxMembers

variable {b : Baggage} {m : String × String} {s : List Char} {h : Headers}

lemma member?_eq_some (hm : member? s = some m) : ∃ k v,
    cutFirst '=' (beforeFirst ';' s) = some (k, v) ∧ trim k ≠ [] ∧
      m.1.toList = trim k ∧ m.2.toList = trim v := by
  simp only [member?] at hm
  split at hm
  · contradiction
  · rename_i k v hc
    split at hm
    · contradiction
    · rename_i hk
      obtain rfl := Option.some.inj hm
      exact ⟨k, v, hc, hk, String.toList_ofList, String.toList_ofList⟩

lemma renderMember_sublist (hm : member? s = some m) :
    (renderMember m).Sublist (beforeFirst ';' s) := by
  obtain ⟨k, v, hc, -, hk, hv⟩ := member?_eq_some hm
  rw [(eq_of_cutFirst hc).1, renderMember, hk, hv]
  exact (trim_sublist k).append ((trim_sublist v).cons_cons '=')

lemma portable_of_member? (hs : ∀ c ∈ s, isVisible c = true ∧ c ≠ ',') (hm : member? s = some m) :
    Portable m := by
  obtain ⟨k, v, hc, hn, hk, hv⟩ := member?_eq_some hm
  have hr := (renderMember_sublist hm).subset
  have hb : ∀ c ∈ renderMember m, isVisible c = true ∧ c ≠ ',' := fun c hc =>
    hs c ((List.takeWhile_prefix _).subset (hr hc))
  constructor
  case visible => exact fun c hc => (hb c hc).1
  case comma => exact fun hc => (hb ',' hc).2 rfl
  case semicolon => exact fun hc => not_mem_beforeFirst ';' s (hr hc)
  case equals => exact fun he => (eq_of_cutFirst hc).2 ((trim_sublist k).subset (hk ▸ he))
  case named => rwa [hk]
  case key => rw [hk, trim_trim]
  case value => rw [hv, trim_trim]

lemma Portable.member?_renderMember (hm : Portable m) : member? (renderMember m) = some m := by
  have hc : cutFirst '=' (renderMember m) = some (m.1.toList, m.2.toList) :=
    cutFirst_append hm.equals m.2.toList
  simp only [member?, beforeFirst_of_not_mem hm.semicolon, hc, hm.key, hm.value, if_neg hm.named,
    String.ofList_toList]

lemma add_cases (b : Baggage) (s : List Char) : add b s = b ∨
    ∃ m, member? s = some m ∧ b.size < maxMembers ∧ add b s = b.insert m.1 m.2 := by
  simp only [add]
  split
  · exact .inl rfl
  · rename_i hs
    split
    · rename_i k v hm
      exact .inr ⟨(k, v), hm, Nat.lt_of_not_le hs, rfl⟩
    · exact .inl rfl

lemma Transportable.add (hb : b.Transportable) (hs : ∀ c ∈ s, isVisible c = true ∧ c ≠ ',') :
    (b.add s).Transportable := by
  rcases add_cases b s with ha | ⟨m, hm, hlt, ha⟩
  · rwa [ha]
  · rw [ha]
    constructor
    · intro n hn
      rcases Dict.mem_place hn with rfl | hn
      · exact portable_of_member? hs hm
      · exact hb.members n hn
    · exact (Dict.length_place_le m.1 m.2 b.entries).trans hlt

lemma Transportable.foldl_add (hb : b.Transportable) {ps : List (List Char)}
    (hs : ∀ p ∈ ps, ∀ c ∈ p, isVisible c = true ∧ c ≠ ',') :
    (ps.foldl Baggage.add b).Transportable := by
  induction ps generalizing b with
  | nil => exact hb
  | cons p ps ih =>
    exact ih (hb.add (hs p List.mem_cons_self)) fun q hq => hs q (List.mem_cons_of_mem p hq)

/-- What the members cost is no more than the pieces that they were read from, where that holds of
each member by itself. -/
lemma cost_foldl_add_le {cost : String × String → ℕ} {price : List Char → ℕ}
    (hc : ∀ s m, member? s = some m → cost m ≤ price s) (b : Baggage) (ps : List (List Char)) :
    ((ps.foldl add b).entries.map cost).sum ≤
      (b.entries.map cost).sum + (ps.map price).sum := by
  have hadd : ∀ b s, ((add b s).entries.map cost).sum ≤ (b.entries.map cost).sum + price s := by
    intro b s
    rcases add_cases b s with ha | ⟨m, hm, -, ha⟩
    · rw [ha]
      exact Nat.le_add_right _ _
    · have hl := hc s m hm
      obtain ⟨front, old, back, he, hp⟩ := Dict.place_eq m.1 m.2 b.entries
      have hi : (b.insert m.1 m.2).entries = front ++ m :: back := hp
      rw [ha, hi, he]
      simp only [List.map_append, List.map_cons, List.sum_append, List.sum_cons]
      omega
  induction ps generalizing b with
  | nil => exact Nat.le_refl _
  | cons p ps ih =>
    have hi := ih (add b p)
    have hp := hadd b p
    rw [List.foldl_cons, List.map_cons, List.sum_cons]
    omega

lemma length_renderMember_le (hm : member? s = some m) : (renderMember m).length ≤ s.length :=
  ((renderMember_sublist hm).trans (List.takeWhile_sublist _)).length_le

lemma room_foldl_add_le (b : Baggage) (ps : List (List Char)) :
    room ((ps.foldl add b).entries.map renderMember) ≤
      room (b.entries.map renderMember) + room ps := by
  simp only [room_eq_sum, List.map_map]
  exact cost_foldl_add_le (fun _ _ hm => Nat.succ_le_succ (length_renderMember_le hm)) b ps

def counted (h : Headers) : List (List Char) :=
  withinBytes 0 ((h.getAll .baggage).filterMap Header.Value.text?)

lemma ofHeaders_eq (h : Headers) :
    ofHeaders h = ((counted h).flatMap (pieces ',')).foldl add .empty := rfl

lemma withinBytes_sublist (used : ℕ) (vs : List (List Char)) :
    (withinBytes used vs).Sublist vs := by
  induction vs generalizing used with
  | nil => exact List.Sublist.slnil
  | cons v vs ih =>
    rw [withinBytes]
    split
    · exact (ih _).cons_cons v
    · exact List.nil_sublist _

lemma counted_visible {v : List Char} (hv : v ∈ counted h) : ∀ c ∈ v, isVisible c = true := by
  obtain ⟨w, -, hw⟩ := List.mem_filterMap.mp ((withinBytes_sublist _ _).subset hv)
  exact Header.Value.visible_of_text? hw

lemma ofHeaders_transportable (h : Headers) : (ofHeaders h).Transportable := by
  have he : Transportable .empty := ⟨fun _ hm => absurd hm List.not_mem_nil, Nat.zero_le _⟩
  rw [ofHeaders_eq]
  refine he.foldl_add fun p hp c hc => ?_
  obtain ⟨v, hv, hp⟩ := List.mem_flatMap.mp hp
  obtain ⟨hcv, hne⟩ := mem_of_mem_pieces hp hc
  exact ⟨counted_visible hv c hcv, hne⟩

lemma length_render_ofHeaders_le (h : Headers) :
    (render (ofHeaders h)).length ≤ (joined [','] (counted h)).length := by
  have hr : room ((ofHeaders h).entries.map renderMember) ≤ room (counted h) := by
    rw [ofHeaders_eq, ← room_flatMap_pieces ',' (counted h)]
    exact (room_foldl_add_le .empty _).trans_eq (Nat.zero_add _)
  cases hc : counted h with
  | nil =>
    have hn : ofHeaders h = .empty := by rw [ofHeaders_eq, hc]; rfl
    rw [hn]
    rfl
  | cons v vs =>
    cases he : (ofHeaders h).entries.map renderMember with
    | nil => simp [render, he, joined]
    | cons p ps =>
      rw [he, ← length_joined ',' (List.cons_ne_nil p ps), hc,
        ← length_joined ',' (List.cons_ne_nil v vs), ← he] at hr
      exact Nat.le_of_succ_le_succ hr

lemma foldl_add_renderMember {es : List (String × String)} (hm : ∀ m ∈ es, Portable m)
    (ha : Dict.Ascending (b.entries ++ es)) (hs : b.size + es.length ≤ maxMembers) :
    ((es.map renderMember).foldl add b).entries = b.entries ++ es := by
  induction es generalizing b with
  | nil => simp
  | cons m es ih =>
    have hlt : b.size < maxMembers := by simp only [List.length_cons] at hs; omega
    have hadd : add b (renderMember m) = b.insert m.1 m.2 := by
      simp only [add, if_neg (Nat.not_le.mpr hlt), (hm m List.mem_cons_self).member?_renderMember]
    have hend : ∀ e ∈ b.entries, compare e.1 m.1 = .lt := fun e he =>
      (List.pairwise_append.mp ha).2.2 e he m List.mem_cons_self
    have hins : (b.insert m.1 m.2).entries = b.entries ++ [m] := Dict.place_of_forall_lt hend m.2
    have happ : b.entries ++ m :: es = (b.insert m.1 m.2).entries ++ es := by
      rw [hins, List.append_assoc, List.singleton_append]
    rw [List.map_cons, List.foldl_cons, hadd, happ]
    refine ih (fun n hn => hm n (List.mem_cons_of_mem m hn)) (happ ▸ ha) ?_
    simp only [Dict.size, hins, List.length_append, List.length_cons, List.length_nil] at hs ⊢
    omega

lemma Transportable.foldl_pieces_render (hb : b.Transportable) :
    (pieces ',' (render b)).foldl Baggage.add .empty = b := by
  cases he : b.entries with
  | nil =>
    have hn : b = .empty := Dict.ext he
    rw [hn]
    rfl
  | cons m es =>
    have hp : pieces ',' (render b) = b.entries.map renderMember := by
      apply pieces_joined
      · simp [he]
      · intro p hp
        obtain ⟨n, hn, rfl⟩ := List.mem_map.mp hp
        exact (hb.members n hn).comma
    have hs : (Dict.empty : Baggage).size + b.entries.length ≤ maxMembers :=
      (Nat.zero_add _).trans_le hb.size
    rw [hp]
    exact Dict.ext (foldl_add_renderMember hb.members b.ascending hs)

lemma Transportable.render_visible (hb : b.Transportable) :
    ∀ c ∈ render b, isVisible c = true := by
  intro c hc
  rcases mem_joined hc with rfl | ⟨p, hp, hc⟩
  · decide
  · obtain ⟨m, hm, rfl⟩ := List.mem_map.mp hp
    exact (hb.members m hm).visible c hc

lemma Transportable.ofHeaders_put (hb : b.Transportable) (h : Headers) :
    ofHeaders (put h .baggage (render b)) =
      if (render b).length ≤ maxBytes then b else .empty := by
  rw [ofHeaders_eq, counted, texts_put hb.render_visible, withinBytes, Nat.zero_add]
  split
  · rw [withinBytes, List.flatMap_singleton, hb.foldl_pieces_render]
  · rfl

lemma room_withinBytes_le {used : ℕ} (hu : used ≤ maxBytes) (vs : List (List Char)) :
    used + room (withinBytes used vs) ≤ maxBytes + (withinBytes used vs).length := by
  induction vs generalizing used with
  | nil => exact hu
  | cons v vs ih =>
    rw [withinBytes]
    split
    · rename_i hv
      have hi := ih hv
      rw [room, List.length_cons]
      omega
    · exact hu

end Baggage

variable {h : Headers} {c : Context}

lemma baggage_extract_new (h : Headers) (σ : Signal) :
    (extract (.new σ) h).baggage = Baggage.ofHeaders h := by
  rw [extract_eq]
  rfl

lemma getAll_baggage_injectSpan (s : Span) (h : Headers) :
    (injectSpan s h).getAll .baggage = h.getAll .baggage := by
  simp only [injectSpan]
  split
  · rw [getAll_put_ne (by decide), getAll_put_ne (by decide)]
  · rw [getAll_put_ne (by decide)]

lemma ofHeaders_inject (hc : c.baggage.Transportable) : Baggage.ofHeaders (inject c .empty) =
    if (Baggage.render c.baggage).length ≤ Baggage.maxBytes then c.baggage else .empty := by
  rw [inject_eq]
  split
  · rename_i he
    have hn : (c.validSpan?.elim .empty (injectSpan · .empty)).getAll .baggage = [] := by
      cases c.validSpan? with
      | none => rfl
      | some s => exact getAll_baggage_injectSpan s .empty
    rw [Baggage.ofHeaders_eq, Baggage.counted, hn, Dict.eq_empty_of_isEmpty he]
    rfl
  · exact hc.ofHeaders_put _

lemma joined_counted_le (h : Headers) : (joined [','] (Baggage.counted h)).length ≤
    Baggage.maxBytes + ((Baggage.counted h).length - 1) := by
  have hr : 0 + room (Baggage.counted h) ≤ Baggage.maxBytes + (Baggage.counted h).length :=
    Baggage.room_withinBytes_le (Nat.zero_le _) _
  cases hc : Baggage.counted h with
  | nil => exact Nat.zero_le _
  | cons v vs =>
    have hj := length_joined ',' (List.cons_ne_nil v vs)
    rw [hc, ← hj, List.length_cons] at hr
    rw [List.length_cons]
    omega

/-- Baggage arrives whole or not at all: it does if its members and the separators between them are
within the bound. The values that it was read from are, without the separators between those. -/
theorem baggage_survives_iff (h : Headers) (σ τ : Signal) :
    let c := extract (.new σ) h
    ((relay c τ).baggage = c.baggage ↔ (Baggage.render c.baggage).length ≤ Baggage.maxBytes) ∧
    (Baggage.render c.baggage).length ≤ (joined [','] (Baggage.counted h)).length ∧
    (joined [','] (Baggage.counted h)).length ≤
      Baggage.maxBytes + ((Baggage.counted h).length - 1) ∧
    c.baggage.Transportable ∧
    ∀ d : Context, d.baggage.Transportable → (relay d τ).baggage =
      if (Baggage.render d.baggage).length ≤ Baggage.maxBytes then d.baggage else .empty := by
  intro c
  have hc : c.baggage = Baggage.ofHeaders h := baggage_extract_new h σ
  have ht : c.baggage.Transportable := hc ▸ Baggage.ofHeaders_transportable h
  have hr : ∀ d : Context, d.baggage.Transportable → (relay d τ).baggage =
      if (Baggage.render d.baggage).length ≤ Baggage.maxBytes then d.baggage else .empty :=
    fun d hd => (baggage_extract_new _ τ).trans (ofHeaders_inject hd)
  refine ⟨⟨?_, ?_⟩, ?_, joined_counted_le h, ht, hr⟩
  · intro he
    by_contra hl
    rw [hr c ht, if_neg hl] at he
    rw [← he] at hl
    exact hl (Nat.zero_le _)
  · intro hl
    rw [hr c ht, if_pos hl]
  · rw [hc]
    exact Baggage.length_render_ofHeaders_le h

theorem baggage_survives_iff_split :
    let h : Headers := ⟨[(.baggage, ⟨Utf8.encode "b = 2;p, c=x=y".toList⟩),
      (.baggage, ⟨Utf8.encode "a=1, b =4".toList⟩)]⟩
    let c := extract (.new ⟨0⟩) h
    c.baggage.entries = [("a", "1"), ("b", "4"), ("c", "x=y")] ∧
    c.baggage.Transportable ∧ (relay c ⟨1⟩).baggage = c.baggage := by
  intro h c
  obtain ⟨-, -, -, ht, hr⟩ := baggage_survives_iff h ⟨0⟩ ⟨1⟩
  have hl : (Baggage.render c.baggage).length ≤ Baggage.maxBytes := by decide
  exact ⟨by decide, ht, (hr c ht).trans (if_pos hl)⟩

namespace Baggage

def long (n : ℕ) : String × String := ("a", String.ofList (List.replicate n 'x'))

def short : String × String := ("b", "1")

def twoValued (n : ℕ) : Headers := ⟨[(.baggage, ⟨Utf8.encode (renderMember (long n))⟩),
  (.baggage, ⟨Utf8.encode (renderMember short)⟩)]⟩

lemma renderMember_long (n : ℕ) : renderMember (long n) = 'a' :: '=' :: List.replicate n 'x' := by
  simp [renderMember, long]

lemma long_portable (n : ℕ) : Portable (long n) := by
  have hx : ∀ c ∈ renderMember (long n), c = 'a' ∨ c = '=' ∨ c = 'x' := by
    intro c hc
    rw [renderMember_long, List.mem_cons, List.mem_cons] at hc
    exact hc.imp_right (Or.imp_right List.eq_of_mem_replicate)
  have hk : (long n).1 = "a" := rfl
  refine ⟨?_, ?_, ?_, hk ▸ by decide, hk ▸ by decide, hk ▸ by decide, ?_⟩
  · intro c hc
    rcases hx c hc with rfl | rfl | rfl <;> decide
  · exact fun hc => absurd (hx _ hc) (by decide)
  · exact fun hc => absurd (hx _ hc) (by decide)
  · apply trim_of_not_blank
    intro c hc
    rw [long, String.toList_ofList] at hc
    rw [List.eq_of_mem_replicate hc]
    decide

lemma short_portable : Portable short where
  visible := List.all_eq_true.mp (by decide)
  comma := by decide
  semicolon := by decide
  equals := by decide
  named := by decide
  key := by decide
  value := by decide

lemma counted_twoValued {n : ℕ} (hn : n + 5 ≤ maxBytes) :
    counted (twoValued n) = [renderMember (long n), renderMember short] := by
  have hl := (Header.Value.text?_encode (long_portable n).visible).1
  have hs := (Header.Value.text?_encode short_portable.visible).1
  have hg : (twoValued n).getAll .baggage =
      [⟨Utf8.encode (renderMember (long n))⟩, ⟨Utf8.encode (renderMember short)⟩] := rfl
  have hlen : (renderMember (long n)).length = n + 2 := by simp [renderMember_long]
  have hlen' : (renderMember short).length = 3 := rfl
  rw [counted, hg, List.filterMap_cons, hl, List.filterMap_cons, hs, List.filterMap_nil,
    withinBytes, if_pos (by omega), withinBytes, if_pos (by omega), withinBytes]

lemma entries_twoValued {n : ℕ} (hn : n + 5 ≤ maxBytes) :
    (ofHeaders (twoValued n)).entries = [long n, short] := by
  have hm : ∀ m ∈ [long n, short], Portable m := by
    intro m hm
    rcases List.mem_pair.mp hm with rfl | rfl
    · exact long_portable n
    · exact short_portable
  have hk : compare "a" "b" = .lt := by decide
  have ha : Dict.Ascending ([] ++ [long n, short]) := List.pairwise_pair.mpr hk
  have hp : [renderMember (long n), renderMember short].flatMap (pieces ',') =
      [long n, short].map renderMember := by
    simp only [List.flatMap_cons, List.flatMap_nil, pieces_of_not_mem (long_portable n).comma,
      pieces_of_not_mem short_portable.comma]
    rfl
  rw [ofHeaders_eq, counted_twoValued hn, hp]
  exact foldl_add_renderMember hm (b := .empty) ha (show 0 + 2 ≤ maxMembers by decide)

lemma twoValued_lost {n : ℕ} (hn : n + 5 ≤ maxBytes) (hm : maxBytes < n + 6) (σ τ : Signal) :
    (extract (.new σ) (twoValued n)).baggage.entries = [long n, short] ∧
    (relay (extract (.new σ) (twoValued n)) τ).baggage = .empty := by
  have hl : ¬(render (ofHeaders (twoValued n))).length ≤ maxBytes := by
    have hr : render (ofHeaders (twoValued n)) =
        renderMember (long n) ++ ',' :: renderMember short := by
      rw [render, entries_twoValued hn]
      simp [joined]
    have hs : (renderMember short).length = 3 := rfl
    simp only [hr, renderMember_long, List.length_append, List.length_cons, List.length_replicate,
      hs]
    omega
  rw [relay, baggage_extract_new, baggage_extract_new, ofHeaders_inject, baggage_extract_new,
    if_neg hl]
  · exact ⟨entries_twoValued hn, rfl⟩
  · rw [baggage_extract_new]
    exact ofHeaders_transportable _

end Baggage

/-- What one server takes whole, the next one gives up. -/
theorem brimful_baggage_lost :
    (extract (.new ⟨0⟩) (Baggage.twoValued 8187)).baggage.entries =
      [Baggage.long 8187, Baggage.short] ∧
    (relay (extract (.new ⟨0⟩) (Baggage.twoValued 8187)) ⟨1⟩).baggage = .empty ∧
    (relay (extract (.new ⟨0⟩) (Baggage.twoValued 8187)) ⟨1⟩).baggage ≠
      (extract (.new ⟨0⟩) (Baggage.twoValued 8187)).baggage := by
  obtain ⟨he, hd⟩ := Baggage.twoValued_lost (n := 8187) (by decide) (by decide) ⟨0⟩ ⟨1⟩
  refine ⟨he, hd, fun h => ?_⟩
  rw [← h, hd] at he
  exact List.cons_ne_nil _ _ he.symm

end Trace

end RpcServer
