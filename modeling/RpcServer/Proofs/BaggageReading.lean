import Mathlib.Data.List.Dedup
import RpcServer.Proofs.BaggagePropagation

/-! What is read as baggage, said without the loops that read it: which values of the header are
taken, which members of theirs are kept, and what stands under each name. -/

namespace RpcServer.Trace.Baggage

open Text Header

def texts (h : Headers) : List Value := (h.getAll .baggage).filter (·.isText)

def extent (vs : List Value) : ℕ := (vs.map (·.bytes.length)).sum

/-- The leading values up to the first with which they are longer than the bound. -/
structure Taken (vs taken : List Value) : Prop where
  front : taken <+: vs
  within : extent taken ≤ maxBytes
  next : ∀ v, taken ++ [v] <+: vs → maxBytes < extent (taken ++ [v])

def memberOf (piece : List Char) : Option (String × String) :=
  let field := piece.takeWhile (· ≠ ';')
  let name := trim (field.takeWhile (· ≠ '='))
  let value := trim (field.dropWhile (· ≠ '=')).tail
  if '=' ∈ field ∧ name ≠ [] then some (String.ofList name, String.ofList value) else none

def members (taken : List Value) : List (String × String) :=
  ((taken.filterMap Value.text?).flatMap (·.splitOn ',')).filterMap memberOf

def names (ms : List (String × String)) : List String := (ms.map Prod.fst).dedup

/-- The leading members up to the first with which there are as many names as may be. -/
structure Kept (ms kept : List (String × String)) : Prop where
  front : kept <+: ms
  room : ∀ q, q <+: kept → q ≠ kept → (names q).length < maxMembers
  full : kept ≠ ms → maxMembers ≤ (names kept).length

def lastValue (ms : List (String × String)) (k : String) : Option String :=
  (ms.reverse.find? fun m => m.1 = k).map Prod.snd

def Specified (h : Headers) (b : Baggage) : Prop :=
  ∃ taken kept, Taken (texts h) taken ∧ Kept (members taken) kept ∧
    ∀ k, b.get? k = lastValue kept k

def byteLength (s : String) : ℕ := (Utf8.encode s.toList).length

structure Bounded (b : Baggage) : Prop where
  size : b.size ≤ 180
  named : ∀ m ∈ b.entries, m.1 ≠ ""
  name : ∀ m ∈ b.entries, ∀ c ∈ m.1.toList, c ≠ ',' ∧ c ≠ ';' ∧ c ≠ '='
  value : ∀ m ∈ b.entries, ∀ c ∈ m.2.toList, c ≠ ',' ∧ c ≠ ';'
  trimmed : ∀ m ∈ b.entries, trim m.1.toList = m.1.toList ∧ trim m.2.toList = m.2.toList
  bytes : (b.entries.map fun m => byteLength m.1 + byteLength m.2).sum ≤ 8192

variable {h : Headers} {b : Baggage} {m : String × String} {ms kept : List (String × String)}
  {k : String}

lemma extent_cons (v : Value) (vs : List Value) : extent (v :: vs) = v.bytes.length + extent vs := by
  simp [extent]

lemma withinBytes_eq {used : ℕ} (hu : used ≤ maxBytes) {vs : List Value}
    (ht : ∀ v ∈ vs, v.isText = true) : ∃ taken, taken <+: vs ∧ used + extent taken ≤ maxBytes ∧
      (∀ v, taken ++ [v] <+: vs → maxBytes < used + extent (taken ++ [v])) ∧
      withinBytes used (vs.filterMap Value.text?) = taken.filterMap Value.text? := by
  induction vs generalizing used with
  | nil =>
    refine ⟨[], List.nil_prefix, hu, fun v hv => ?_, rfl⟩
    exact absurd hv.length_le (by simp)
  | cons v vs ih =>
    have hv : v.text? = some (v.bytes.map fun b => Char.ofNat b.toNat) :=
      if_pos (ht v List.mem_cons_self)
    rw [List.filterMap_cons_some hv, withinBytes, List.length_map]
    split
    · rename_i hl
      obtain ⟨taken, hf, hw, hn, he⟩ := ih hl fun w hw => ht w (List.mem_cons_of_mem v hw)
      refine ⟨v :: taken, List.cons_prefix_cons.mpr ⟨rfl, hf⟩, ?_, fun w hp => ?_, ?_⟩
      · rw [extent_cons]
        omega
      · have := hn w (List.cons_prefix_cons.mp hp).2
        rw [List.cons_append, extent_cons]
        omega
      · rw [he, List.filterMap_cons_some hv]
    · rename_i hl
      refine ⟨[], List.nil_prefix, hu, fun w hp => ?_, rfl⟩
      obtain rfl : w = v := (List.cons_prefix_cons.mp hp).1
      rw [List.nil_append, extent_cons]
      omega

lemma exists_taken (h : Headers) :
    ∃ taken, Taken (texts h) taken ∧ counted h = taken.filterMap Value.text? := by
  have ht : ∀ v ∈ texts h, v.isText = true := fun v hv => (List.mem_filter.mp hv).2
  have hc : (h.getAll .baggage).filterMap Value.text? = (texts h).filterMap Value.text? := by
    rw [texts, List.filterMap_filter]
    refine List.filterMap_congr fun v _ => ?_
    simp only [Value.text?]
    split <;> simp_all
  obtain ⟨taken, hf, hw, hn, he⟩ := withinBytes_eq (Nat.zero_le maxBytes) ht
  simp only [Nat.zero_add] at hw hn
  exact ⟨taken, ⟨hf, hw, hn⟩, by rw [counted, hc, he]⟩

lemma member?_eq_memberOf (s : List Char) : member? s = memberOf s := by
  simp only [member?, memberOf, beforeFirst, cutFirst_eq]
  by_cases he : '=' ∈ s.takeWhile (· ≠ ';')
  · simp only [he, if_true, true_and, ite_not]
  · simp only [he, false_and, if_false]

def keep (b : Baggage) (m : String × String) : Baggage :=
  if maxMembers ≤ b.size then b else b.insert m.1 m.2

lemma foldl_add_eq (b : Baggage) (ps : List (List Char)) :
    ps.foldl add b = (ps.filterMap memberOf).foldl keep b := by
  rw [List.foldl_filterMap]
  congr 1
  funext b s
  rw [add, ← member?_eq_memberOf]
  cases member? s with
  | none => simp
  | some m => rfl

lemma lastValue_append (ms : List (String × String)) (m : String × String) (k : String) :
    lastValue (ms ++ [m]) k = if m.1 = k then some m.2 else lastValue ms k := by
  rw [lastValue, List.reverse_concat, List.find?_cons]
  by_cases hk : m.1 = k <;> simp [hk, lastValue]

lemma lastValue_isSome : (lastValue ms k).isSome = true ↔ k ∈ names ms := by
  simp [lastValue, names]

lemma size_eq (hb : ∀ k, b.get? k = lastValue ms k) : b.size = (names ms).length := by
  have hp : (b.entries.map Prod.fst).Perm (names ms) := by
    apply (List.perm_ext_iff_of_nodup b.keys_nodup (List.nodup_dedup _)).mpr
    intro k
    rw [Dict.mem_keys_iff, hb, lastValue_isSome, names]
  exact (List.length_map Prod.fst).symm.trans hp.length_eq

lemma exists_kept (ms : List (String × String)) :
    ∃ kept, Kept ms kept ∧ ∀ k, (ms.foldl keep .empty).get? k = lastValue kept k := by
  induction ms using List.reverseRecOn with
  | nil =>
    refine ⟨[], ⟨List.prefix_rfl, fun q hq hn => ?_, fun hn => absurd rfl hn⟩, fun k => rfl⟩
    exact absurd (List.prefix_nil.mp hq) hn
  | append_singleton ms m ih =>
    obtain ⟨kept, hk, hb⟩ := ih
    rw [List.foldl_concat, keep, size_eq hb]
    split
    · rename_i hs
      exact ⟨kept, ⟨hk.front.trans (List.prefix_append ms [m]), hk.room, fun _ => hs⟩, hb⟩
    · rename_i hs
      obtain rfl : kept = ms := not_imp_comm.mp hk.full hs
      refine ⟨kept ++ [m], ⟨List.prefix_rfl, fun q hq hn => ?_, fun hn => absurd rfl hn⟩, ?_⟩
      · obtain rfl | hq := List.prefix_concat_iff.mp hq
        · exact absurd rfl hn
        · by_cases he : q = kept
          · rw [he]
            exact Nat.lt_of_not_le hs
          · exact hk.room q hq he
      · intro k
        rw [lastValue_append]
        split
        · rename_i he
          rw [← he, Dict.get?_insert_self]
        · rename_i he
          rw [Dict.get?_insert_ne _ (Ne.symm he), hb]

lemma prefix_unique {α : Type} {P : List α → Prop} {l s t : List α}
    (hp : ∀ s t, P s → P t → s <+: t → s = t) (hl : ∀ s, P s → s <+: l) (hs : P s) (ht : P t) :
    s = t := by
  rcases List.prefix_or_prefix_of_prefix (hl s hs) (hl t ht) with h | h
  · exact hp s t hs ht h
  · exact (hp t s ht hs h).symm

lemma Taken.unique {vs s t : List Value} (hs : Taken vs s) (ht : Taken vs t) : s = t := by
  refine prefix_unique (fun s t hs ht hp => ?_) (fun _ => Taken.front) hs ht
  obtain ⟨rest, rfl⟩ := hp
  cases rest with
  | nil => rw [List.append_nil]
  | cons v rest =>
    have hv := hs.next v ((List.prefix_append (s ++ [v]) rest).trans (by simpa using ht.front))
    have hw := ht.within
    simp only [extent, List.map_append, List.sum_append, List.map_cons, List.sum_cons] at hv hw
    simp only [List.map_nil, List.sum_nil] at hv
    omega

lemma Kept.unique {s t : List (String × String)} (hs : Kept ms s) (ht : Kept ms t) : s = t := by
  refine prefix_unique (fun s t hs ht hp => ?_) (fun _ => Kept.front) hs ht
  by_contra hne
  have hms : s ≠ ms := by
    rintro rfl
    exact hne (hp.eq_of_length (Nat.le_antisymm hp.length_le ht.front.length_le))
  exact absurd (ht.room s hp hne) (Nat.not_lt.mpr (hs.full hms))

lemma ofHeaders_specified (h : Headers) : Specified h (ofHeaders h) := by
  obtain ⟨taken, ht, hc⟩ := exists_taken h
  obtain ⟨kept, hk, hb⟩ := exists_kept (members taken)
  refine ⟨taken, kept, ht, hk, fun k => ?_⟩
  have hp : pieces ',' = (·.splitOn ',') := funext (pieces_eq_splitOn ',')
  rw [ofHeaders_eq, hc, foldl_add_eq, hp]
  exact hb k

lemma Specified.unique {b' : Baggage} (hb : Specified h b) (hb' : Specified h b') : b = b' := by
  obtain ⟨taken, kept, ht, hk, hg⟩ := hb
  obtain ⟨taken', kept', ht', hk', hg'⟩ := hb'
  obtain rfl := ht.unique ht'
  obtain rfl := hk.unique hk'
  exact Dict.ext_get? fun k => (hg k).trans (hg' k).symm

lemma length_ofHeaders_le (h : Headers) :
    ((ofHeaders h).entries.map fun m => m.1.toList.length + m.2.toList.length).sum ≤ maxBytes := by
  have hm : ∀ s m, member? s = some m → m.1.toList.length + m.2.toList.length ≤ s.length := by
    intro s m hm
    have hl := length_renderMember_le hm
    rw [renderMember, List.length_append, List.length_cons] at hl
    omega
  have hc := cost_foldl_add_le hm .empty ((counted h).flatMap (pieces ','))
  have hr := room_flatMap_pieces ',' (counted h)
  have hw : 0 + room (counted h) ≤ maxBytes + (counted h).length :=
    room_withinBytes_le (Nat.zero_le _) _
  have hl := length_le_flatMap_pieces ',' (counted h)
  rw [room_eq] at hr
  have he : (((Dict.empty : Baggage).entries.map fun m =>
    m.1.toList.length + m.2.toList.length)).sum = 0 := rfl
  rw [ofHeaders_eq]
  omega

lemma Portable.byteLength (hm : Portable m) :
    byteLength m.1 = m.1.toList.length ∧ byteLength m.2 = m.2.toList.length := by
  have hv := hm.visible
  simp only [renderMember, List.forall_mem_append, List.forall_mem_cons] at hv
  simp only [Baggage.byteLength, encode_visible hv.1, encode_visible hv.2.2, List.length_map,
    and_self]

lemma ofHeaders_bounded (h : Headers) : (ofHeaders h).Bounded := by
  have ht := ofHeaders_transportable h
  have hk : ∀ m : String × String, ∀ c ∈ m.1.toList, c ∈ renderMember m := fun m c hc =>
    List.mem_append_left _ hc
  have hv : ∀ m : String × String, ∀ c ∈ m.2.toList, c ∈ renderMember m := fun m c hc =>
    List.mem_append_right _ (List.mem_cons_of_mem _ hc)
  constructor
  case size => exact ht.size
  case named =>
    rintro m hm he
    exact (ht.members m hm).named (by rw [he]; rfl)
  case name =>
    intro m hm c hc
    have hp := ht.members m hm
    refine ⟨?_, ?_, ?_⟩
    · rintro rfl
      exact hp.comma (hk m _ hc)
    · rintro rfl
      exact hp.semicolon (hk m _ hc)
    · rintro rfl
      exact hp.equals hc
  case value =>
    intro m hm c hc
    have hp := ht.members m hm
    constructor
    · rintro rfl
      exact hp.comma (hv m _ hc)
    · rintro rfl
      exact hp.semicolon (hv m _ hc)
  case trimmed => exact fun m hm => ⟨(ht.members m hm).key, (ht.members m hm).value⟩
  case bytes =>
    rw [List.map_congr_left fun m hm => by
      rw [(ht.members m hm).byteLength.1, (ht.members m hm).byteLength.2]]
    exact length_ofHeaders_le h

/-- The baggage of a request is the one that fits its header, and it is bounded. -/
theorem reading_specified (h : Headers) :
    (∀ b, Specified h b ↔ b = ofHeaders h) ∧ (ofHeaders h).Bounded := by
  refine ⟨fun b => ⟨fun hb => hb.unique (ofHeaders_specified h), ?_⟩, ofHeaders_bounded h⟩
  rintro rfl
  exact ofHeaders_specified h

end RpcServer.Trace.Baggage
