import RpcServer.Http.Message
import RpcServer.Text.Digits
import RpcServer.Text.Split

/-! Requests and responses as they go over a connection. Lines of a head are seen as bytes, each as
the character of its number. -/

namespace RpcServer.Http

open Text

namespace Wire

def isGap (c : Char) : Bool := c = ' ' || c = '\t'

def trimGaps (s : List Char) : List Char :=
  ((s.dropWhile isGap).reverse.dropWhile isGap).reverse

def value? (s : List Char) : Option Header.Value :=
  let bytes := s.map fun c => UInt8.ofNat c.toNat
  if bytes.all Header.Value.isLegalByte then some ⟨bytes⟩ else none

def field? (line : List Char) : Option (Header.Name × Header.Value) := do
  let (name, rest) ← cutFirst ':' line
  return (← Header.Name.parse? (String.ofList name), ← value? (trimGaps rest))

def requestLine? (line : List Char) : Option (String × Uri) :=
  match pieces ' ' line with
  | [method, target, version] =>
    if method ≠ [] ∧ method.all Header.isTokenChar ∧ version = "HTTP/1.1".toList then
      (Uri.parse? (String.ofList target)).map fun uri => (String.ofList method, uri)
    else none
  | _ => none

def head? : List (List Char) → Option Request
  | [] => none
  | line :: fields => do
    let (method, uri) ← requestLine? line
    return ⟨method, uri, ⟨← fields.mapM field?⟩, []⟩

def bodyLength? (h : Headers) : Option Nat :=
  match h.text? .contentLength with
  | none => some 0
  | some s => natural? s

def reason (status : Nat) : String :=
  if status = 200 then "OK"
  else if status = 404 then "Not Found"
  else if status = 405 then "Method Not Allowed"
  else ""

def lineEnd : List UInt8 := [0x0d, 0x0a]

def statusLine (status : Nat) : String := "HTTP/1.1 " ++ toString status ++ " " ++ reason status

def fieldLine (f : Header.Name × Header.Value) : List UInt8 :=
  Utf8.encode f.1.text.toList ++ [0x3a, 0x20] ++ f.2.bytes ++ lineEnd

def response (r : Response) : List UInt8 :=
  Utf8.encode (statusLine r.status).toList ++ lineEnd ++ r.headers.entries.flatMap fieldLine ++
    lineEnd ++ r.body

end Wire

end RpcServer.Http
