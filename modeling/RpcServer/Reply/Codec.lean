import RpcServer.Headers
import RpcServer.Json.Printer
import RpcServer.Panic
import RpcServer.Text.Case
import RpcServer.Text.Split

/-! Codecs for envelopes, and the choice between them by the request's `accept` headers. -/

namespace RpcServer.Reply

open Text

inductive CodecError where
  | json (message : String)
  | unsupported (codec message : String)
deriving DecidableEq

def CodecError.display : CodecError → String
  | .json message => "json: " ++ message
  | .unsupported codec message => codec ++ ": " ++ message

structure Codec where
  name : String
  contentType : String
  marshal : Json → Except Panic (Except CodecError (List UInt8))

def Codec.json : Codec where
  name := "json"
  contentType := "application/json"
  marshal v := .ok (.ok (Utf8.encode v.render))

structure Codecs where
  registered : List Codec

namespace Codecs

def new : Codecs := ⟨[.json]⟩

def register (r : Codecs) (c : Codec) : Codecs :=
  ⟨r.registered.filter (fun d => d.name ≠ c.name) ++ [c]⟩

def get? (r : Codecs) (name : String) : Option Codec :=
  r.registered.find? fun c => sameIgnoringCase c.name name

/-- The subtype of a media range: what follows its first slash, and of that only what follows the
last plus sign. Parameters do not count, and a wildcard is no subtype. -/
def subtype? (range : List Char) : Option String :=
  match cutFirst '/' (trim (beforeFirst ';' range)) with
  | none => none
  | some (_, subtype) =>
    let subtype := afterLast '+' subtype
    if subtype = [] ∨ subtype = ['*'] then none else some (String.ofList subtype)

def accepted (h : Headers) : List String :=
  (((h.getAll .accept).filterMap Header.Value.text?).flatMap (pieces ',')).filterMap subtype?

def forRequest (r : Codecs) (h : Headers) : Codec :=
  ((accepted h).findSome? r.get?).getD .json

end Codecs

end RpcServer.Reply
