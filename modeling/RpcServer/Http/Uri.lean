import RpcServer.Text.Case
import RpcServer.Text.Utf8

/-! Request targets: `/path?query`, `*`, an authority alone, or an absolute form. Only path and query
matter to the server; the path stays as it is written. -/

namespace RpcServer.Http

open Text

structure Uri where
  path : String
  query : Option String
deriving DecidableEq

namespace Uri

def maxLength : Nat := 65534

def isLetterOrDigit (c : Char) : Bool :=
  ('0' ≤ c && c ≤ '9') || ('a' ≤ c && c ≤ 'z') || ('A' ≤ c && c ≤ 'Z')

def isPathChar (c : Char) : Bool :=
  ('!' ≤ c && c ≠ '#' && c ≠ '<' && c ≠ '>' && c ≠ '?' && c ≠ '\x60')

def isQueryChar (c : Char) : Bool :=
  ('!' ≤ c && c ≠ '"' && c ≠ '#' && c ≠ '<' && c ≠ '>')

def isSchemeChar (c : Char) : Bool := isLetterOrDigit c || c ∈ ['+', '-', '.', '~']

def isAuthorityChar (c : Char) : Bool :=
  isLetterOrDigit c ||
    c ∈ ['!', '$', '%', '&', '\x27', '(', ')', '*', '+', ',', '-', '.', ':', ';', '=', '@', '[', ']',
      '_', '~']

def endsAuthority (c : Char) : Bool := c = '/' || c = '?' || c = '#'

def ofPathAndQuery? (s : List Char) : Option Uri :=
  let inPath := fun c => c ≠ '?' && c ≠ '#'
  let path := s.takeWhile inPath
  let shown := if path = [] then "/" else String.ofList path
  if path.all isPathChar then
    match s.dropWhile inPath with
    | '?' :: r =>
      let query := r.takeWhile (· ≠ '#')
      if query.all isQueryChar then some ⟨shown, some (String.ofList query)⟩ else none
    | _ => some ⟨shown, none⟩
  else none

/-- What an authority has shown so far: colons and a percent sign since the user part or a bracketed
address, the brackets, and whether it ends in an at sign. -/
structure AuthorityScan where
  colons : Nat := 0
  opened : Bool := false
  closed : Bool := false
  percent : Bool := false
  atEnd : Bool := false

def maxColons : Nat := 8

def AuthorityScan.step (a : AuthorityScan) (c : Char) : Option AuthorityScan :=
  let b := { a with atEnd := false }
  match c with
  | ':' => if maxColons ≤ a.colons then none else some { b with colons := a.colons + 1 }
  | '[' => if a.percent || a.opened then none else some { b with opened := true }
  | ']' =>
    if !a.opened || a.closed then none
    else some { b with closed := true, colons := 0, percent := false }
  | '@' => some { b with colons := 0, percent := false, atEnd := true }
  | '%' => some { b with percent := true }
  | c => if isAuthorityChar c then some b else none

def AuthorityScan.isSound (a : AuthorityScan) : Bool :=
  a.opened = a.closed && a.colons ≤ 1 && !a.atEnd && !a.percent

def authority? (s : List Char) : Option (List Char × List Char) :=
  let a := s.takeWhile (!endsAuthority ·)
  match a.foldlM AuthorityScan.step {} with
  | some scan => if scan.isSound then some (a, s.dropWhile (!endsAuthority ·)) else none
  | none => none

def maxSchemeLength : Nat := 64

def afterScheme? (s : List Char) : Option (List Char × Nat) :=
  let name := s.takeWhile isSchemeChar
  match s.dropWhile isSchemeChar with
  | ':' :: '/' :: '/' :: rest => some (rest, name.length)
  | _ => none

def parse? (text : String) : Option Uri :=
  let s := text.toList
  if s = [] ∨ maxLength < Utf8.size s then none
  else if s.head? = some '/' then ofPathAndQuery? s
  else if s = ['*'] then some ⟨"*", none⟩
  else
    match afterScheme? s with
    | some (rest, length) =>
      if maxSchemeLength < length then none
      else
        match authority? rest with
        | some (a, rest) => if a = [] then none else ofPathAndQuery? rest
        | none => none
    | none =>
      match authority? s with
      | some (_, []) => some ⟨"", none⟩
      | _ => none

end Uri

end RpcServer.Http
