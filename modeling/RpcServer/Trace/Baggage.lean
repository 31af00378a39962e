import RpcServer.Dict
import RpcServer.Headers
import RpcServer.Text.Blank
import RpcServer.Text.Split

/-! Baggage: names and values that travel with a trace, read from and written to the header
`baggage`. How much of it is taken from a request is bounded. -/

namespace RpcServer.Trace

abbrev Baggage := Dict String String

namespace Baggage

open Text

def maxMembers : Nat := 180

def maxBytes : Nat := 8192

def member? (s : List Char) : Option (String × String) :=
  match cutFirst '=' (beforeFirst ';' s) with
  | none => none
  | some (k, v) =>
    let k := trim k
    if k = [] then none else some (String.ofList k, String.ofList (trim v))

def add (b : Baggage) (s : List Char) : Baggage :=
  if maxMembers ≤ b.size then b
  else
    match member? s with
    | some (k, v) => b.insert k v
    | none => b

def withinBytes (used : Nat) : List (List Char) → List (List Char)
  | [] => []
  | v :: vs =>
    if used + v.length ≤ maxBytes then v :: withinBytes (used + v.length) vs else []

def ofHeaders (h : Headers) : Baggage :=
  let values := withinBytes 0 ((h.getAll .baggage).filterMap Header.Value.text?)
  (values.flatMap (pieces ',')).foldl add Dict.empty

def renderMember (m : String × String) : List Char := m.1.toList ++ '=' :: m.2.toList

def render (b : Baggage) : List Char := joined [','] (b.entries.map renderMember)

end Baggage

end RpcServer.Trace
