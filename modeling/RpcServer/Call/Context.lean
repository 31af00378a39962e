import RpcServer.Call.Transport
import RpcServer.ServiceError
import RpcServer.Trace.Baggage
import RpcServer.Trace.Span

/-! What travels with a call: a cancellation signal, a deadline, a span, baggage and the transport.
What is bound stays bound: an earlier deadline, a valid span and baggage that is there are kept. -/

namespace RpcServer

/-- Milliseconds since the clock started. -/
abbrev Instant := Int

structure Signal where
  id : Nat
deriving DecidableEq

structure Context where
  signal : Signal
  deadline : Option Instant := none
  span : Option Trace.Span := none
  baggage : Trace.Baggage := .empty
  transport : Option Transport := none
deriving DecidableEq

namespace Context

def new (signal : Signal) : Context := ⟨signal, none, none, .empty, none⟩

def withSignal (c : Context) (s : Signal) : Context := { c with signal := s }

def withDeadline (c : Context) (d : Instant) : Context :=
  match c.deadline with
  | some e => { c with deadline := some (if e < d then e else d) }
  | none => { c with deadline := some d }

def withTransport (c : Context) (t : Transport) : Context := { c with transport := some t }

def hasValidSpan (c : Context) : Bool := c.span.any Trace.Span.isValid

def withSpan (c : Context) (s : Trace.Span) : Context :=
  if c.hasValidSpan then c else { c with span := some s }

def withBaggage (c : Context) (b : Trace.Baggage) : Context :=
  if c.baggage.isEmpty then { c with baggage := b } else c

def done? (c : Context) (cancelled : Bool) (now : Instant) : Option ServiceError :=
  if cancelled then some .cancelled
  else
    match c.deadline with
    | some d => if d ≤ now then some .deadlineExceeded else none
    | none => none

def identity (c : Context) : Trace.Identity := .ofSpan c.span

end Context

end RpcServer
