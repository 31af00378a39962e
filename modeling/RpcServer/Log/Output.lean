import RpcServer.Config.Schema
import RpcServer.Log.Filter
import RpcServer.Log.Line

/-! Where log events are written: those that the filter lets through, in the format that is set. -/

namespace RpcServer.Log

structure Output where
  format : Config.LogFormat
  filter : Filter

namespace Output

def ofSettings (environment : Option String) (o : Config.Observability) : Output :=
  ⟨o.logFormat, .choose environment o.logLevel⟩

def showsSpans (o : Output) : Bool := o.filter.passes .info Target.tracer

def visible? (o : Output) (e : Event) : Option Event :=
  if o.filter.passes e.level e.target then
    some { e with span := if o.showsSpans then e.span else none }
  else none

def line (o : Output) (e : Event) : Line :=
  match o.format with
  | .json => .object e.toJson
  | .pretty => .text e.pretty

def lines (o : Output) (es : List Event) : List Line := (es.filterMap o.visible?).map o.line

def alreadySet : Event :=
  ⟨.warn, Target.logging, "Logging already initialized",
    [("error", .shown "a global default trace dispatcher has already been set")], none⟩

def ofSetups (o : Output) (setups : Nat) (es : List Event) : List Line :=
  if setups = 0 then [] else o.lines (List.replicate (setups - 1) alreadySet ++ es)

end Output

end RpcServer.Log
