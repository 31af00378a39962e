import RpcServer.Proofs.CodecReplacement
import RpcServer.Proofs.LetterCase

/-! Which codec answers a request, said without the loops that look for it: of all media ranges that
the request accepts, the first that asks for a codec decides, and the others might as well not be there. -/

namespace RpcServer.Reply.Codecs

open Text Header

/-- What a media range comes down to: of its text before the first semicolon, trimmed, what follows the
first slash, and of that what follows the last plus sign. -/
structure ComesTo (range subtype : List Char) : Prop where
  media : ∃ kind rest, trim (range.takeWhile (· ≠ ';')) = kind ++ '/' :: rest ∧ '/' ∉ kind ∧
    (rest = subtype ∨ ∃ front, rest = front ++ '+' :: subtype)
  plain : '+' ∉ subtype
  named : subtype ≠ []
  definite : subtype ≠ ['*']

def Asks (r : Codecs) (range : List Char) (c : Codec) : Prop :=
  ∃ s, ComesTo range s ∧ r.get? (String.ofList s) = some c

def Idle (r : Codecs) (range : List Char) : Prop := ∀ c, ¬ r.Asks range c

def ranges (h : Headers) : List (List Char) :=
  ((h.getAll .accept).filterMap Value.text?).flatMap (·.splitOn ',')

inductive Chooses (r : Codecs) : List (List Char) → Codec → Prop
  | asked {before after : List (List Char)} {range : List Char} {c : Codec}
      (hb : ∀ s ∈ before, r.Idle s) (hr : r.Asks range c) : Chooses r (before ++ range :: after) c
  | builtIn {ranges : List (List Char)} (hi : ∀ s ∈ ranges, r.Idle s) : Chooses r ranges .json

variable {r : Codecs} {h : Headers} {range s : List Char} {c : Codec} {ss : List (List Char)}

lemma subtype?_eq_some_iff : subtype? range = some (String.ofList s) ↔ ComesTo range s := by
  have hb : beforeFirst ';' range = range.takeWhile (· ≠ ';') := rfl
  constructor
  · intro h
    rw [subtype?, hb] at h
    split at h
    · contradiction
    · rename_i kind rest hc
      dsimp only at h
      split at h
      · contradiction
      · rename_i hn
        obtain rfl := String.ofList_injective (Option.some.inj h)
        obtain ⟨hs, hk⟩ := eq_of_cutFirst hc
        obtain ⟨hp, hr⟩ := afterLast_eq_iff.mp (rfl : afterLast '+' rest = _)
        rw [not_or] at hn
        exact ⟨⟨kind, rest, hs, hk, hr⟩, hp, hn.1, hn.2⟩
  · rintro ⟨⟨kind, rest, hs, hk, hr⟩, hp, hn, hd⟩
    rw [subtype?, hb, hs, cutFirst_append hk]
    dsimp only
    rw [afterLast_eq_iff.mpr ⟨hp, hr⟩, if_neg (not_or.mpr ⟨hn, hd⟩)]

def asked? (r : Codecs) (range : List Char) : Option Codec := (subtype? range).bind r.get?

lemma asks_iff : r.Asks range c ↔ r.asked? range = some c := by
  rw [asked?, Option.bind_eq_some_iff]
  constructor
  · rintro ⟨s, hs, hc⟩
    exact ⟨_, subtype?_eq_some_iff.mpr hs, hc⟩
  · rintro ⟨s, hs, hc⟩
    rw [← String.ofList_toList (s := s)] at hs hc
    exact ⟨s.toList, subtype?_eq_some_iff.mp hs, hc⟩

lemma idle_iff : r.Idle range ↔ r.asked? range = none := by
  simp only [Idle, asks_iff, Option.eq_none_iff_forall_ne_some, ne_eq]

lemma forRequest_eq (r : Codecs) (h : Headers) :
    r.forRequest h = ((ranges h).findSome? r.asked?).getD .json := by
  have hp : pieces ',' = (·.splitOn ',') := funext (pieces_eq_splitOn ',')
  have ha : accepted h = (ranges h).filterMap subtype? := by rw [accepted, hp, ranges]
  rw [forRequest, ha, ← List.head?_filterMap, List.filterMap_filterMap, List.head?_filterMap]
  rfl

lemma findSome?_asked?_eq_none : ss.findSome? r.asked? = none ↔ ∀ s ∈ ss, r.Idle s := by
  simp only [List.findSome?_eq_none_iff, idle_iff]

lemma chooses_iff (ss : List (List Char)) (c : Codec) :
    r.Chooses ss c ↔ c = (ss.findSome? r.asked?).getD .json := by
  constructor
  · intro hc
    cases hc with
    | @asked before after range c hb hr =>
      have hs : (before ++ range :: after).findSome? r.asked? = some c :=
        List.findSome?_eq_some_iff.mpr
          ⟨before, range, after, rfl, asks_iff.mp hr, fun s hs => idle_iff.mp (hb s hs)⟩
      rw [hs, Option.getD_some]
    | builtIn hi => rw [findSome?_asked?_eq_none.mpr hi, Option.getD_none]
  · rintro rfl
    cases hs : ss.findSome? r.asked? with
    | none => exact .builtIn (findSome?_asked?_eq_none.mp hs)
    | some c =>
      obtain ⟨before, range, after, rfl, hr, hb⟩ := List.findSome?_eq_some_iff.mp hs
      exact .asked (fun s hs => idle_iff.mpr (hb s hs)) (asks_iff.mpr hr)

lemma subtype?_small (range : List Char) : subtype? (small range) =
    (subtype? range).map fun s => String.ofList (small s.toList) := by
  have hb : beforeFirst ';' (small range) = small (beforeFirst ';' range) :=
    takeWhile_small (by decide) range
  rw [subtype?, subtype?, hb, trim_small, cutFirst_small (by decide)]
  cases cutFirst '/' (trim (beforeFirst ';' range)) with
  | none => rfl
  | some cut =>
    have hl : afterLast '+' (small cut.2) = small (afterLast '+' cut.2) :=
      afterLast_small (by decide) cut.2
    have he : small (afterLast '+' cut.2) = [] ∨ small (afterLast '+' cut.2) = ['*'] ↔
        afterLast '+' cut.2 = [] ∨ afterLast '+' cut.2 = ['*'] :=
      or_congr List.map_eq_nil_iff (small_eq_singleton (by decide))
    simp only [Option.map_some, Prod.map, hl, he]
    split <;> simp

lemma asked?_small (r : Codecs) (range : List Char) : r.asked? (small range) = r.asked? range := by
  rw [asked?, asked?, subtype?_small, Option.bind_map]
  congr 1
  funext s
  exact get?_congr r (by rw [lowered, String.toList_ofList, ← small, small_small]; rfl)

/-- The first range that asks for a codec decides, and with none the built-in codec is taken. Ranges
that ask for none may be left out, and the case of letters does not matter. -/
theorem negotiation_specified (r : Codecs) (h : Headers) :
    (∀ c, r.Chooses (ranges h) c ↔ c = r.forRequest h) ∧
      (∀ g before idle after, ranges h = before ++ idle ++ after → ranges g = before ++ after →
        (∀ s ∈ idle, r.Idle s) → r.forRequest g = r.forRequest h) ∧
      ∀ g, (ranges g).map small = (ranges h).map small → r.forRequest g = r.forRequest h := by
  refine ⟨fun c => ?_, fun g before idle after hh hg hi => ?_, fun g hg => ?_⟩
  · rw [chooses_iff, forRequest_eq]
  · rw [forRequest_eq, forRequest_eq, hh, hg, List.findSome?_append, List.findSome?_append,
      List.findSome?_append, findSome?_asked?_eq_none.mpr hi, Option.or_none]
  · have hs : r.asked? ∘ small = r.asked? := funext (asked?_small r)
    rw [forRequest_eq, forRequest_eq, ← hs, ← List.findSome?_map, ← List.findSome?_map, hg]

/-- A codec that took the name of the built-in one is found under it, and yet does not stand in for it. -/
example : let r := new.register ⟨"json", "text/json", Codec.json.marshal⟩
    (r.get? "json").map Codec.contentType = some "text/json" ∧
      (r.forRequest .empty).contentType = "application/json" := by decide

end RpcServer.Reply.Codecs
