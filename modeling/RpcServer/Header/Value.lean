import RpcServer.Text.Utf8

/-! Header values: bytes without control characters. A value is text when all its bytes are visible
ASCII, spaces or tabs. -/

namespace RpcServer.Header

structure Value where
  bytes : List UInt8
deriving DecidableEq

namespace Value

def isLegalByte (b : UInt8) : Bool := (0x20 ≤ b && b ≠ 0x7f) || b = 0x09

def isTextByte (b : UInt8) : Bool := (0x20 ≤ b && b < 0x7f) || b = 0x09

def ofText? (s : List Char) : Option Value :=
  let bytes := Text.Utf8.encode s
  if bytes.all isLegalByte then some ⟨bytes⟩ else none

def ofVisible? (s : List Char) : Option Value :=
  let bytes := Text.Utf8.encode s
  if bytes.all isTextByte then some ⟨bytes⟩ else none

def isText (v : Value) : Bool := v.bytes.all isTextByte

def text? (v : Value) : Option (List Char) :=
  if v.isText then some (v.bytes.map fun b => Char.ofNat b.toNat) else none

def json : Value := ⟨Text.Utf8.encode "application/json".toList⟩

end Value

end RpcServer.Header
