import RpcServer.Json.Value
import RpcServer.Number.Shortest
import RpcServer.Text.Hex
import RpcServer.Text.Utf8

/-! The compact text of JSON values. Output is gathered back to front, so that long arrays and long
strings need no stack. -/

namespace RpcServer.Json

def escape (c : Char) : List Char :=
  if c = '"' then ['\\', '"']
  else if c = '\\' then ['\\', '\\']
  else if c = '\x08' then ['\\', 'b']
  else if c = '\t' then ['\\', 't']
  else if c = '\n' then ['\\', 'n']
  else if c = '\x0c' then ['\\', 'f']
  else if c = '\r' then ['\\', 'r']
  else if c < ' ' then '\\' :: 'u' :: '0' :: '0' :: Text.Hex.ofByte (UInt8.ofNat c.toNat)
  else [c]

def renderString (s : String) : List Char := '"' :: s.toList.flatMap escape ++ ['"']

def Number.render : Number → List Char
  | .integer n => (toString n).toList
  | .binary x => if x.isFinite then x.render else ['n', 'u', 'l', 'l']

def renderBool (b : Bool) : List Char :=
  if b then ['t', 'r', 'u', 'e'] else ['f', 'a', 'l', 's', 'e']

mutual

def emit (done : List Char) : Json → List Char
  | .null => ['l', 'l', 'u', 'n'] ++ done
  | .bool b => (renderBool b).reverse ++ done
  | .number n => n.render.reverse ++ done
  | .string s => (renderString s).reverse ++ done
  | .array [] => ']' :: '[' :: done
  | .array (v :: vs) => ']' :: emitItems (emit ('[' :: done) v) vs
  | .object [] => '\x7d' :: '\x7b' :: done
  | .object ((k, v) :: fs) =>
    '\x7d' :: emitFields (emit (':' :: ((renderString k).reverse ++ '\x7b' :: done)) v) fs

def emitItems (done : List Char) : List Json → List Char
  | [] => done
  | v :: vs => emitItems (emit (',' :: done) v) vs

def emitFields (done : List Char) : List (String × Json) → List Char
  | [] => done
  | (k, v) :: fs => emitFields (emit (':' :: ((renderString k).reverse ++ ',' :: done)) v) fs

end

def render (v : Json) : List Char := (emit [] v).reverse

def toText (v : Json) : String := String.ofList v.render

end RpcServer.Json
