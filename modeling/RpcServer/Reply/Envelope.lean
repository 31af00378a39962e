import RpcServer.Json.Node
import RpcServer.Json.Printer

/-! Envelopes, the bodies of all replies: a code, and for a success a message and perhaps data. -/

namespace RpcServer.Reply

structure Envelope where
  code : Int32
  message : Option String
  data : Option Json

namespace Envelope

def success (code : Int32) (message : String) (data : Option Json) : Envelope :=
  ⟨code, some message, data⟩

def codeOnly (code : Int32) : Envelope := ⟨code, none, none⟩

def toJson (e : Envelope) : Json :=
  .object ([("code", .int e.code.toInt)] ++
    (e.message.map fun s => ("message", .string s)).toList ++
    (e.data.map fun v => ("data", v)).toList)

def render (e : Envelope) : List Char := e.toJson.render

open Json

def code? (v : Option Node) : Option Int32 :=
  ((v.bind (Node.int? (-Int.pow 2 31) (Int.pow 2 31 - 1)))).map Int32.ofInt

def optional {α : Type} (read : Node → Option α) : Option Node → Option (Option α)
  | none => some none
  | some v => if v.isNull then some none else (read v).map some

/-- Reads an envelope; data may nest one level less than a whole text. -/
def ofNode? (v : Node) : Option Envelope :=
  match v.record? ["code", "message", "data"] with
  | some [code, message, data] => do
    let code ← code? code
    let message ← optional Node.text? message
    let data ← optional (Node.value? (Node.maxDepth - 1)) data
    some ⟨code, message, data⟩
  | _ => none

def ofText? (s : List Char) : Option Envelope := (Node.ofText? (s.map some)).bind ofNode?

end Envelope

end RpcServer.Reply
