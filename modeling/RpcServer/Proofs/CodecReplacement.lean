import Mathlib.Data.List.Induction
import Mathlib.Data.List.Nodup
import RpcServer.Reply.Codec

/-! Codecs that are registered one after another. One takes the place of those of exactly its name, but
names are looked up in any case: what is found is the latest codec just where a name came in one
spelling. -/

namespace RpcServer.Reply.Codecs

open Text

def ofList (cs : List Codec) : Codecs := cs.foldl register new

def history (cs : List Codec) : List Codec := .json :: cs

def latest? (cs : List Codec) (n : String) : Option Codec :=
  (history cs).reverse.find? fun c => sameIgnoringCase c.name n

def OneSpelling (cs : List Codec) (n : String) : Prop :=
  ∀ c ∈ history cs, ∀ d ∈ history cs, sameIgnoringCase c.name n = true →
    sameIgnoringCase d.name n = true → c.name = d.name

variable {cs : List Codec} {c d : Codec} {r : Codecs} {m n : String}

lemma ofList_concat (cs : List Codec) (c : Codec) : ofList (cs ++ [c]) = (ofList cs).register c :=
  List.foldl_concat register new c cs

lemma history_concat (cs : List Codec) (c : Codec) : history (cs ++ [c]) = history cs ++ [c] := rfl

lemma mem_history_concat : d ∈ history (cs ++ [c]) ↔ d ∈ history cs ∨ d = c := by
  rw [history_concat, List.mem_append, List.mem_singleton]

lemma latest?_concat (cs : List Codec) (c : Codec) (n : String) : latest? (cs ++ [c]) n =
    if sameIgnoringCase c.name n then some c else latest? cs n := by
  rw [latest?, history_concat, List.reverse_concat, List.find?_cons, latest?]
  cases sameIgnoringCase c.name n <;> rfl

lemma mem_register :
    d ∈ (r.register c).registered ↔ d ∈ r.registered ∧ d.name ≠ c.name ∨ d = c := by
  simp [register]

lemma get?_eq_some (h : r.get? n = some c) :
    c ∈ r.registered ∧ sameIgnoringCase c.name n = true :=
  ⟨List.mem_of_find?_eq_some h, (List.find?_eq_some_iff_append.mp h).1⟩

lemma get?_congr (r : Codecs) (h : lowered m = lowered n) : r.get? m = r.get? n := by
  simp only [get?, sameIgnoringCase, h]

lemma registered_subset (cs : List Codec) : (ofList cs).registered ⊆ history cs := by
  induction cs using List.reverseRecOn with
  | nil => exact List.Subset.refl _
  | append_singleton cs c ih =>
    intro d hd
    rw [ofList_concat, mem_register] at hd
    exact mem_history_concat.mpr (hd.imp_left fun h => ih h.1)

lemma mem_names {s : String} :
    s ∈ (ofList cs).registered.map Codec.name ↔ s ∈ (history cs).map Codec.name := by
  refine ⟨fun hs => List.map_subset Codec.name (registered_subset cs) hs, ?_⟩
  induction cs using List.reverseRecOn with
  | nil => exact id
  | append_singleton cs c ih =>
    have hnew : c.name ∈ ((ofList cs).register c).registered.map Codec.name :=
      List.mem_map_of_mem (mem_register.mpr (.inr rfl))
    rw [ofList_concat, history_concat, List.map_append, List.mem_append]
    rintro (hs | hs)
    · by_cases hc : s = c.name
      · exact hc ▸ hnew
      · obtain ⟨d, hd, rfl⟩ := List.mem_map.mp (ih hs)
        exact List.mem_map_of_mem (mem_register.mpr (.inl ⟨hd, hc⟩))
    · rw [List.mem_singleton.mp hs]
      exact hnew

lemma names_nodup (cs : List Codec) : ((ofList cs).registered.map Codec.name).Nodup := by
  induction cs using List.reverseRecOn with
  | nil => exact List.nodup_singleton _
  | append_singleton cs c ih =>
    rw [ofList_concat, register, List.map_append, List.nodup_append]
    refine ⟨ih.sublist (List.filter_sublist.map _), List.nodup_singleton _, ?_⟩
    rintro _ hd _ he
    obtain ⟨d, hm, rfl⟩ := List.mem_map.mp hd
    rw [List.mem_singleton.mp he]
    exact of_decide_eq_true (List.mem_filter.mp hm).2

lemma get?_register_of_not (h : sameIgnoringCase c.name n = false) :
    (r.register c).get? n = r.get? n := by
  have hp : (fun d : Codec => decide (decide (d.name ≠ c.name) = true ∧
      sameIgnoringCase d.name n = true)) = fun d => sameIgnoringCase d.name n := by
    funext d
    by_cases hd : d.name = c.name
    · simp [hd, h]
    · simp [hd]
  rw [get?, register, List.find?_append, List.find?_filter, hp, List.find?_singleton, h, get?]
  exact Option.or_none

lemma get?_register_eq_some_iff (h : sameIgnoringCase c.name n = true) :
    (r.register c).get? n = some c ↔
      ∀ d ∈ r.registered, sameIgnoringCase d.name n = true → d.name = c.name := by
  let others : Codecs := ⟨r.registered.filter fun d => d.name ≠ c.name⟩
  have hg : (r.register c).get? n = (others.get? n).or (some c) := by
    rw [get?, register, List.find?_append, List.find?_singleton, if_pos h, get?]
  rw [hg]
  cases ho : others.get? n with
  | none =>
    refine iff_of_true rfl fun d hd hn => ?_
    by_contra hne
    exact List.find?_eq_none.mp ho d (List.mem_filter.mpr ⟨hd, decide_eq_true hne⟩) hn
  | some e =>
    obtain ⟨he, hn⟩ := get?_eq_some ho
    obtain ⟨he, hne⟩ := List.mem_filter.mp he
    refine iff_of_false (fun heq => ?_) fun ha => of_decide_eq_true hne (ha e he hn)
    exact of_decide_eq_true hne (congrArg Codec.name (Option.some.inj heq))

lemma oneSpelling_iff (hc : c ∈ history cs) (h : sameIgnoringCase c.name n = true) :
    OneSpelling cs n ↔
      ∀ s ∈ (history cs).map Codec.name, sameIgnoringCase s n = true → s = c.name := by
  rw [List.forall_mem_map]
  constructor
  · exact fun ho d hd hn => ho d hd c hc hn h
  · exact fun ha d hd e he hn hm => (ha d hd hn).trans (ha e he hm).symm

lemma oneSpelling_concat_of_not (h : sameIgnoringCase c.name n = false) :
    OneSpelling (cs ++ [c]) n ↔ OneSpelling cs n := by
  have hm : ∀ d ∈ history (cs ++ [c]), sameIgnoringCase d.name n = true → d ∈ history cs := by
    intro d hd hn
    refine (mem_history_concat.mp hd).resolve_right ?_
    rintro rfl
    rw [h] at hn
    contradiction
  constructor
  · intro ho d hd e he
    exact ho d (mem_history_concat.mpr (.inl hd)) e (mem_history_concat.mpr (.inl he))
  · intro ho d hd e he hn hn'
    exact ho d (hm d hd hn) e (hm e he hn') hn hn'

lemma get?_eq_latest?_iff (cs : List Codec) (n : String) :
    (ofList cs).get? n = latest? cs n ↔ OneSpelling cs n := by
  induction cs using List.reverseRecOn with
  | nil =>
    refine iff_of_true rfl fun c hc d hd _ _ => ?_
    rw [List.mem_singleton.mp hc, List.mem_singleton.mp hd]
  | append_singleton cs c ih =>
    rw [ofList_concat, latest?_concat]
    cases h : sameIgnoringCase c.name n with
    | false =>
      rw [get?_register_of_not h, oneSpelling_concat_of_not h, ← ih, if_neg Bool.false_ne_true]
    | true =>
      rw [if_pos rfl, get?_register_eq_some_iff h,
        oneSpelling_iff (mem_history_concat.mpr (.inr rfl)) h, history_concat, List.map_append,
        List.forall_mem_append, List.map_singleton, List.forall_mem_singleton]
      simp only [and_true, implies_true, ← mem_names, List.forall_mem_map]

lemma get?_isSome_iff : ((ofList cs).get? n).isSome = true ↔
    ∃ c ∈ history cs, sameIgnoringCase c.name n = true := by
  rw [get?, List.find?_isSome]
  have he : ∀ l : List Codec, (∃ c ∈ l, sameIgnoringCase c.name n = true) ↔
      ∃ s ∈ l.map Codec.name, sameIgnoringCase s n = true := by simp
  simp only [he, mem_names]

lemma reachable_iff (cs : List Codec) :
    (∀ c ∈ (ofList cs).registered, (ofList cs).get? c.name = some c) ↔ ∀ n, OneSpelling cs n := by
  constructor
  · intro hr n c hc d hd hn hm
    obtain ⟨c', hc', he⟩ := List.mem_map.mp (mem_names.mpr (List.mem_map_of_mem hc))
    obtain ⟨d', hd', hf⟩ := List.mem_map.mp (mem_names.mpr (List.mem_map_of_mem hd))
    have hl : lowered c.name = lowered d.name :=
      (of_decide_eq_true hn).trans (of_decide_eq_true hm).symm
    have hg := (hr c' hc').symm.trans ((get?_congr _ (by rw [he, hf, hl])).trans (hr d' hd'))
    rw [← he, ← hf, Option.some.inj hg]
  · intro ho c hc
    have hs : sameIgnoringCase c.name c.name = true := sameIgnoringCase_refl c.name
    obtain ⟨e, he⟩ := Option.isSome_iff_exists.mp
      (get?_isSome_iff.mpr ⟨c, registered_subset cs hc, hs⟩)
    obtain ⟨hm, hn⟩ := get?_eq_some he
    have hname := ho c.name e (registered_subset cs hm) c (registered_subset cs hc) hn hs
    rw [he, List.inj_on_of_nodup_map (names_nodup cs) hm hc hname]

/-- What is found under a name is the codec that was registered last, just where the name came in one
spelling. The built-in name is never without a codec. -/
theorem latest_found_iff (cs : List Codec) :
    (∀ n, (ofList cs).get? n = latest? cs n ↔ OneSpelling cs n) ∧
      (∀ c, ((ofList cs).register c).get? c.name = some c ↔ OneSpelling (cs ++ [c]) c.name) ∧
      ((∀ c ∈ (ofList cs).registered, (ofList cs).get? c.name = some c) ↔
        ∀ n, OneSpelling cs n) ∧
      ((ofList cs).get? "json").isSome = true := by
  refine ⟨get?_eq_latest?_iff cs, fun c => ?_, reachable_iff cs, ?_⟩
  · have hl : latest? (cs ++ [c]) c.name = some c := by
      rw [latest?_concat, if_pos (sameIgnoringCase_refl c.name)]
    rw [← get?_eq_latest?_iff, hl, ofList_concat]
  · exact get?_isSome_iff.mpr ⟨.json, List.mem_cons_self, by decide⟩

def FindsLatest : Prop := ∀ cs n, (ofList cs).get? n = latest? cs n

def capitals : Codec := ⟨"JSON", "text/json", Codec.json.marshal⟩

theorem capitals_unreachable : ¬ FindsLatest := by
  intro h
  have hc := congrArg (Option.map Codec.contentType) (h [capitals] "JSON")
  have hf : ((ofList [capitals]).get? "JSON").map Codec.contentType = some "application/json" := by
    decide
  have hl : (latest? [capitals] "JSON").map Codec.contentType = some "text/json" := by decide
  rw [hf, hl] at hc
  exact absurd hc (by decide)

end RpcServer.Reply.Codecs
