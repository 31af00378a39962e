import RpcServer.Proofs.Observation
import RpcServer.Proofs.ResponseIdentity

/-! What was bound to a context, in order, and what the context shows of it: the first valid span, the
first baggage that is not empty, and the earliest deadline. -/

namespace RpcServer

open Trace

inductive Binding where
  | deadline (t : Instant)
  | span (s : Span)
  | baggage (b : Baggage)
  | transport (t : Transport)
  | signal (s : Signal)
  | headers (h : Headers)

namespace Binding

@[simp] def deadline? : Binding → Option Instant
  | deadline t => some t
  | _ => none

@[simp] def span? : Binding → Option Span
  | span s => some s
  | headers h => Trace.span? h
  | _ => none

def bringsValidSpan (b : Binding) : Bool := b.span?.any Span.isValid

@[simp] def baggage? (traced : Bool) : Binding → Option Baggage
  | baggage b => some b
  | headers h => if traced then none else some (Baggage.ofHeaders h)
  | _ => none

@[simp] def signal? : Binding → Option Signal
  | signal s => some s
  | _ => none

@[simp] def transport? : Binding → Option Transport
  | transport t => some t
  | _ => none

def deadlines (bs : List Binding) : List Instant := bs.filterMap deadline?

def firstSpan (bs : List Binding) : Option Span := (bs.filterMap span?).find? Span.isValid

def baggages (traced : Bool) : List Binding → List Baggage
  | [] => []
  | b :: bs => (b.baggage? traced).toList ++ baggages (traced || b.bringsValidSpan) bs

def firstBaggage (bs : List Binding) : Option Baggage :=
  (baggages false bs).find? fun b => !b.isEmpty

end Binding

lemma Dict.eq_empty_of_isEmpty {κ ν : Type} [Ord κ] {d : Dict κ ν} (h : d.isEmpty = true) :
    d = .empty :=
  ext (List.isEmpty_iff.mp h)

namespace Trace

lemma span?_isValid {h : Headers} {s : Span} (hs : span? h = some s) : s.isValid = true := by
  simp only [span?] at hs
  split at hs
  · rename_i t ht
    obtain ⟨_, -, hf⟩ := Option.bind_eq_some_iff.mp ht
    obtain rfl := Option.some.inj hs
    exact (Span.ofFields?_eq_some hf).1
  · contradiction

lemma extract_eq (c : Context) (h : Headers) : extract c h =
    if c.hasValidSpan then c
    else { c with
      span := (span? h).or c.span
      baggage := if c.baggage.isEmpty then Baggage.ofHeaders h else c.baggage } := by
  have hb : ∀ d : Context, (if (Baggage.ofHeaders h).isEmpty then d
      else d.withBaggage (Baggage.ofHeaders h)) =
        { d with baggage := if d.baggage.isEmpty then Baggage.ofHeaders h else d.baggage } := by
    intro d
    cases he : d.baggage.isEmpty with
    | false => simp [Context.withBaggage, he]
    | true =>
      split
      · rename_i hn
        rw [Dict.eq_empty_of_isEmpty hn, if_pos rfl, ← Dict.eq_empty_of_isEmpty he]
      · simp [Context.withBaggage, he]
  cases hv : c.hasValidSpan with
  | true => rw [extract_of_hasValidSpan h hv, if_pos rfl]
  | false =>
    simp only [extract, hv, hb, Bool.false_eq_true, ↓reduceIte]
    cases span? h with
    | none => rfl
    | some s => simp only [Context.withSpan, hv, Bool.false_eq_true, ↓reduceIte, Option.some_or]

lemma extract_frame (c : Context) (h : Headers) : ∃ span baggage,
    extract c h = { c with span := span, baggage := baggage } := by
  rw [extract_eq]
  split
  · exact ⟨c.span, c.baggage, rfl⟩
  · exact ⟨_, _, rfl⟩

lemma extract_extract (c : Context) (h : Headers) : extract (extract c h) h = extract c h := by
  cases hv : c.hasValidSpan with
  | true => rw [extract_of_hasValidSpan h hv, extract_of_hasValidSpan h hv]
  | false =>
    have he := extract_eq c h
    rw [hv, if_neg Bool.false_ne_true] at he
    cases hs : span? h with
    | some s =>
      -- the span that was found keeps a second extraction from doing anything
      apply extract_of_hasValidSpan
      rw [he, hs]
      exact span?_isValid hs
    | none =>
      have hn : (extract c h).hasValidSpan = false := by rw [he, hs]; exact hv
      rw [extract_eq, hn, if_neg Bool.false_ne_true, he, hs]
      cases hb : c.baggage.isEmpty <;> simp [hb]

end Trace

namespace Context

variable {c : Context} {b : Binding} {bs : List Binding}

def bind (c : Context) : Binding → Context
  | .deadline t => c.withDeadline t
  | .span s => c.withSpan s
  | .baggage b => c.withBaggage b
  | .transport t => c.withTransport t
  | .signal s => c.withSignal s
  | .headers h => extract c h

def bindAll (c : Context) (bs : List Binding) : Context := bs.foldl bind c

lemma withDeadline_eq (c : Context) (t : Instant) :
    c.withDeadline t = { c with deadline := (c.deadline.toList ++ [t]).min? } := by
  simp only [withDeadline]
  cases c.deadline with
  | none => rfl
  | some e =>
    have hm : (if e < t then e else t) = min e t := by
      split
      · rename_i hlt
        exact (Int.min_eq_left (Int.le_of_lt hlt)).symm
      · rename_i hge
        exact (Int.min_eq_right (Int.not_lt.mp hge)).symm
    simp [hm]

lemma bind_eq (c : Context) (b : Binding) : c.bind b =
    { signal := b.signal?.getD c.signal
      deadline := (c.deadline.toList ++ b.deadline?.toList).min?
      span := if c.hasValidSpan then c.span else b.span?.or c.span
      baggage := if c.baggage.isEmpty then (b.baggage? c.hasValidSpan).getD c.baggage else c.baggage
      transport := b.transport?.or c.transport } := by
  have hd : c.deadline = c.deadline.toList.min? := by cases c.deadline <;> rfl
  cases b with
  | deadline t => simp [bind, withDeadline_eq]
  | span s =>
    simp only [bind, withSpan]
    cases c.hasValidSpan <;> simp [← hd]
  | baggage b =>
    simp only [bind, withBaggage]
    cases c.baggage.isEmpty <;> simp [← hd]
  | transport t => simp [bind, withTransport, ← hd]
  | signal s => simp [bind, withSignal, ← hd]
  | headers h =>
    rw [bind, extract_eq]
    cases c.hasValidSpan <;> simp [← hd]

def validSpan? (c : Context) : Option Span := c.span.filter Span.isValid

lemma hasValidSpan_eq (c : Context) : c.hasValidSpan = c.validSpan?.isSome := by
  simp only [hasValidSpan, validSpan?]
  cases c.span with
  | none => rfl
  | some s => cases hs : s.isValid <;> simp [Option.filter, hs]

lemma validSpan?_bind (c : Context) (b : Binding) :
    (c.bind b).validSpan? = c.validSpan?.or (b.span?.filter Span.isValid) := by
  simp only [bind_eq, hasValidSpan_eq, validSpan?]
  cases hc : c.span.filter Span.isValid with
  | some s => exact hc
  | none =>
    cases b.span? with
    | none => exact hc
    | some s => rfl

lemma validSpan?_bindAll (c : Context) (bs : List Binding) :
    (c.bindAll bs).validSpan? = c.validSpan?.or (Binding.firstSpan bs) := by
  induction bs generalizing c with
  | nil => exact (Option.or_none).symm
  | cons b bs ih =>
    have hf : Binding.firstSpan (b :: bs) =
        (b.span?.filter Span.isValid).or (Binding.firstSpan bs) := by
      simp only [Binding.firstSpan, List.filterMap_cons]
      cases b.span? with
      | none => rfl
      | some s => cases hs : s.isValid <;> simp [Option.filter, hs]
    calc ((c.bind b).bindAll bs).validSpan?
        = (c.bind b).validSpan?.or (Binding.firstSpan bs) := ih (c.bind b)
      _ = c.validSpan?.or (Binding.firstSpan (b :: bs)) := by
        rw [validSpan?_bind, hf, Option.or_assoc]

lemma span_bindAll (h : c.hasValidSpan = true) (bs : List Binding) :
    (c.bindAll bs).span = c.span := by
  have hv : (c.bindAll bs).validSpan? = c.validSpan? := by
    rw [hasValidSpan_eq] at h
    obtain ⟨s, hs⟩ := Option.isSome_iff_exists.mp h
    rw [validSpan?_bindAll, hs, Option.some_or]
  rw [hasValidSpan_eq] at h
  obtain ⟨s, hs⟩ := Option.isSome_iff_exists.mp h
  rw [hs] at hv
  exact (Option.filter_eq_some_iff.mp hv).1.trans (Option.filter_eq_some_iff.mp hs).1.symm

lemma identity_eq (c : Context) : c.identity =
    (c.validSpan?.map fun s => ⟨s.traceId, s.spanId⟩).getD .none := by
  simp only [identity, validSpan?]
  cases c.span with
  | none => rfl
  | some s => cases hs : s.isValid <;> simp [Identity.ofSpan, Option.filter, hs]

lemma min?_append_toList (xs ys : List Instant) :
    (xs.min?.toList ++ ys).min? = (xs ++ ys).min? := by
  cases xs with
  | nil => rfl
  | cons x xs =>
    rw [List.min?_cons', Option.toList_some, List.singleton_append, List.min?_cons',
      List.cons_append, List.min?_cons', List.foldl_append]

lemma deadline_bindAll (c : Context) (bs : List Binding) :
    (c.bindAll bs).deadline = (c.deadline.toList ++ Binding.deadlines bs).min? := by
  induction bs generalizing c with
  | nil =>
    have hs : (c.bindAll []).deadline = c.deadline := rfl
    rw [hs]
    cases c.deadline <;> rfl
  | cons b bs ih =>
    have hd : Binding.deadlines (b :: bs) = b.deadline?.toList ++ Binding.deadlines bs := by
      simp only [Binding.deadlines, List.filterMap_cons]
      cases b.deadline? <;> rfl
    calc ((c.bind b).bindAll bs).deadline
        = ((c.bind b).deadline.toList ++ Binding.deadlines bs).min? := ih (c.bind b)
      _ = (c.deadline.toList ++ b.deadline?.toList ++ Binding.deadlines bs).min? := by
        rw [bind_eq, min?_append_toList]
      _ = (c.deadline.toList ++ Binding.deadlines (b :: bs)).min? := by
        rw [hd, List.append_assoc]

lemma hasValidSpan_bind (c : Context) (b : Binding) :
    (c.bind b).hasValidSpan = (c.hasValidSpan || b.bringsValidSpan) := by
  rw [hasValidSpan_eq, validSpan?_bind, hasValidSpan_eq, Option.isSome_or, Binding.bringsValidSpan]
  cases b.span? with
  | none => rfl
  | some s => cases hs : s.isValid <;> simp [Option.filter, hs]

lemma baggage_bind (c : Context) (b : Binding) (rest : List Baggage) :
    ((c.bind b).baggage :: rest).find? (fun b => !b.isEmpty) =
      (c.baggage :: ((b.baggage? c.hasValidSpan).toList ++ rest)).find? fun b => !b.isEmpty := by
  rw [bind_eq]
  cases hc : c.baggage.isEmpty with
  | false => simp [hc]
  | true => cases b.baggage? c.hasValidSpan <;> simp [hc]

lemma baggage_bindAll (c : Context) (bs : List Binding) : (c.bindAll bs).baggage =
    ((c.baggage :: Binding.baggages c.hasValidSpan bs).find? fun b => !b.isEmpty).getD .empty := by
  induction bs generalizing c with
  | nil =>
    have hs : (c.bindAll []).baggage = c.baggage := rfl
    rw [hs, Binding.baggages, List.find?_singleton]
    cases hc : c.baggage.isEmpty with
    | true => exact Dict.eq_empty_of_isEmpty hc
    | false => rfl
  | cons b bs ih =>
    have hs : (c.bindAll (b :: bs)).baggage = ((c.bind b).bindAll bs).baggage := rfl
    rw [hs, ih, hasValidSpan_bind, baggage_bind]
    rfl

lemma baggage_kept (h : c.baggage ≠ .empty) (bs : List Binding) :
    (c.bindAll bs).baggage = c.baggage := by
  have he : c.baggage.isEmpty = false :=
    Bool.eq_false_iff.mpr fun he => h (Dict.eq_empty_of_isEmpty he)
  simp [baggage_bindAll, he]

end Context

end RpcServer
