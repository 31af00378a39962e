import RpcServer.Text.Hex
import RpcServer.Text.Split
import RpcServer.Text.Unseen

/-! The structural text of a value, for people who debug: strings are quoted, fields are named. -/

namespace RpcServer.Text

def quotedChar (c : Char) : List Char :=
  if c = '"' then ['\\', '"']
  else if c = '\\' then ['\\', '\\']
  else if c = '\n' then ['\\', 'n']
  else if c = '\r' then ['\\', 'r']
  else if c = '\t' then ['\\', 't']
  else if c = '\x00' then ['\\', '0']
  else if isUnseen c then ['\\', 'u', '\x7b'] ++ Hex.ofNat c.toNat ++ ['\x7d']
  else [c]

def quoted (s : List Char) : List Char := '"' :: s.flatMap quotedChar ++ ['"']

end RpcServer.Text

namespace RpcServer

inductive Inspection where
  | unit
  | number (n : Int)
  | text (s : String)
  | list (items : List Inspection)
  | table (entries : List (String × Inspection))
  | record (name : String) (fields : List (String × Inspection))
  | variant (name : String) (arguments : List Inspection)

namespace Inspection

open Text

def comma : List Char := [',', ' ']

mutual

def render : Inspection → List Char
  | .unit => ['(', ')']
  | .number n => (toString n).toList
  | .text s => quoted s.toList
  | .list items => '[' :: joined comma (renderAll items) ++ [']']
  | .table entries => '\x7b' :: joined comma (renderEntries entries) ++ ['\x7d']
  | .record name [] => name.toList
  | .record name (f :: fs) =>
    name.toList ++ [' ', '\x7b', ' '] ++ joined comma (renderFields (f :: fs)) ++ [' ', '\x7d']
  | .variant name [] => name.toList
  | .variant name (a :: as) => name.toList ++ '(' :: joined comma (renderAll (a :: as)) ++ [')']

def renderAll : List Inspection → List (List Char)
  | [] => []
  | v :: vs => render v :: renderAll vs

def renderEntries : List (String × Inspection) → List (List Char)
  | [] => []
  | (k, v) :: es => (quoted k.toList ++ [':', ' '] ++ render v) :: renderEntries es

def renderFields : List (String × Inspection) → List (List Char)
  | [] => []
  | (k, v) :: fs => (k.toList ++ [':', ' '] ++ render v) :: renderFields fs

end

def ofOption (v : Option Inspection) : Inspection :=
  match v with
  | none => .variant "None" []
  | some v => .variant "Some" [v]

def ofBytes (bytes : List UInt8) : Inspection := .list (bytes.map fun b => .number b.toNat)

theorem render_text (s : String) : render (.text s) = Text.quoted s.toList := by
  simp [render]

end Inspection

end RpcServer
