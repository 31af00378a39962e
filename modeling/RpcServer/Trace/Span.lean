import RpcServer.Text.Blank
import RpcServer.Text.Hex
import RpcServer.Text.Split

/-! Spans of distributed traces, in the form of the W3C Trace Context header `traceparent`. -/

namespace RpcServer.Trace

open Text

def isLowerHex (s : List Char) : Bool := s ≠ [] && s.all Hex.isLowerDigit

def isAllZero (s : List Char) : Bool := s.all (· = '0')

def isId (length : Nat) (s : List Char) : Bool :=
  s.length = length && isLowerHex s && !isAllZero s

def traceIdLength : Nat := 32

def spanIdLength : Nat := 16

structure Span where
  traceId : String
  spanId : String
  flags : UInt8
  state : Option String
  remote : Bool
deriving DecidableEq

namespace Span

def isValid (s : Span) : Bool :=
  isId traceIdLength s.traceId.toList && isId spanIdLength s.spanId.toList

def isSampled (s : Span) : Bool := s.flags.toNat % 2 = 1

def isVersion (s : List Char) : Bool := s.length = 2 && isLowerHex s && s ≠ ['f', 'f']

def ofFields? : List (List Char) → Option Span
  | version :: traceId :: spanId :: flags :: rest =>
    if isVersion version && (version ≠ ['0', '0'] || rest.isEmpty) &&
        isId traceIdLength traceId && isId spanIdLength spanId &&
        flags.length = 2 && isLowerHex flags then
      (Hex.number? flags).map fun n =>
        ⟨String.ofList traceId, String.ofList spanId, UInt8.ofNat n, none, true⟩
    else none
  | _ => none

def ofTraceparent? (s : List Char) : Option Span := ofFields? (pieces '-' (trim s))

def withState (s : Span) (state : Option String) : Span :=
  { s with state := state.filter fun t => trim t.toList ≠ [] }

def traceparent (s : Span) : List Char :=
  ['0', '0', '-'] ++ s.traceId.toList ++ '-' :: s.spanId.toList ++ '-' :: Hex.ofByte s.flags

end Span

structure Identity where
  traceId : String
  spanId : String
deriving DecidableEq

namespace Identity

def none : Identity := ⟨"none", "none"⟩

def isNone (i : Identity) : Bool := i.traceId = "none" && i.spanId = "none"

def display (i : Identity) : String := "trace_id=" ++ i.traceId ++ " span_id=" ++ i.spanId

def ofSpan (s : Option Span) : Identity :=
  match s with
  | some s => if s.isValid then ⟨s.traceId, s.spanId⟩ else .none
  | _ => .none

theorem ofSpan_none : ofSpan Option.none = .none := rfl

end Identity

end RpcServer.Trace
