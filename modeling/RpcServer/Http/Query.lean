import RpcServer.Text.Hex
import RpcServer.Text.Split
import RpcServer.Text.Utf8

/-! Query strings as forms write them: names and values between ampersands, with plus signs for
spaces and percent signs before hexadecimal bytes. -/

namespace RpcServer.Http.Query

open Text

def hexValue? (b : UInt8) : Option Nat := Hex.value? (Char.ofNat b.toNat)

def percentDecode : List UInt8 → List UInt8
  | [] => []
  | b :: rest =>
    if b = 0x25 then
      match rest with
      | c :: d :: more =>
        match hexValue? c, hexValue? d with
        | some hi, some lo => UInt8.ofNat (hi * 16 + lo) :: percentDecode more
        | _, _ => b :: percentDecode (c :: d :: more)
      | rest => b :: percentDecode rest
    else b :: percentDecode rest
termination_by bs => bs.length

def decode (s : List Char) : String :=
  let spaced := s.map fun c => if c = '+' then ' ' else c
  String.ofList (Utf8.decodeLossy (percentDecode (Utf8.encode spaced)))

def pair (s : List Char) : String × String :=
  match cutFirst '=' s with
  | some (k, v) => (decode k, decode v)
  | none => (decode s, "")

def pairs (query : String) : List (String × String) :=
  ((pieces '&' query.toList).filter (· ≠ [])).map pair

end RpcServer.Http.Query
