import RpcServer.Call.Context

/-! Trace context on the wire: taken from inbound headers, written to outbound ones. -/

namespace RpcServer.Trace

open Header

def span? (h : Headers) : Option Span :=
  match (h.text? .traceparent).bind Span.ofTraceparent? with
  | some s => some (s.withState ((h.text? .tracestate).map String.ofList))
  | none => none

def extract (c : Context) (h : Headers) : Context :=
  if c.hasValidSpan then c
  else
    let c := match span? h with
      | some s => c.withSpan s
      | none => c
    let b := Baggage.ofHeaders h
    if b.isEmpty then c else c.withBaggage b

def put (h : Headers) (n : Name) (s : List Char) : Headers :=
  match Value.ofText? s with
  | some v => h.insert n v
  | none => h

def injectSpan (s : Span) (h : Headers) : Headers :=
  let h := put h .traceparent s.traceparent
  match s.state with
  | some state => put h .tracestate state.toList
  | none => h

def inject (c : Context) (h : Headers) : Headers :=
  let h := match c.span with
    | some s => if s.isValid then injectSpan s h else h
    | none => h
  if c.baggage.isEmpty then h else put h .baggage (Baggage.render c.baggage)

theorem extract_of_hasValidSpan {c : Context} (h : Headers) (hc : c.hasValidSpan = true) :
    extract c h = c := by
  simp [extract, hc]

end RpcServer.Trace
