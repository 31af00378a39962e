import RpcServer.Text.Hex

/-! Blanks, comments, strings and keys of TOML. Each reader gives what it has read and the rest. -/

namespace RpcServer.Toml

open Text

def isSpace (c : Char) : Bool := c = ' ' || c = '\t'

def skipSpace (s : List Char) : List Char := s.dropWhile isSpace

def isLineChar (c : Char) : Bool := c = '\t' || (' ' ≤ c && c ≠ '\x7f')

def newline? : List Char → Option (List Char)
  | '\n' :: s => some s
  | '\r' :: '\n' :: s => some s
  | _ => none

def skipComment : List Char → List Char
  | '#' :: s => s.dropWhile isLineChar
  | s => s

def lineEnd? (s : List Char) : Option (List Char) :=
  match skipComment (skipSpace s) with
  | [] => some []
  | s => newline? s

def skipBlank (s : List Char) : List Char :=
  let t := skipSpace s
  match newline? (skipComment t) with
  | some rest => if rest.length < s.length then skipBlank rest else rest
  | none => t
termination_by s.length

def char? (n : Nat) : Option Char := if n.isValidChar then some (Char.ofNat n) else none

def isHexDigits (ds : List Char) : Bool := ds.all fun c => (Hex.value? c).isSome

def numbered? (ds : List Char) : Option Char :=
  if isHexDigits ds then (Hex.number? ds).bind char? else none

def escaped? (c : Char) : Option Char :=
  match c with
  | 'b' => some '\x08'
  | 'f' => some '\x0c'
  | 'n' => some '\n'
  | 'r' => some '\r'
  | 't' => some '\t'
  | '"' => some '"'
  | '\\' => some '\\'
  | _ => none

def basic (done : List Char) : List Char → Option (List Char × List Char)
  | [] => none
  | '"' :: s => some (done.reverse, s)
  | '\\' :: 'u' :: a :: b :: c :: d :: s =>
    match numbered? [a, b, c, d] with
    | some ch => basic (ch :: done) s
    | none => none
  | '\\' :: 'U' :: a :: b :: c :: d :: e :: f :: g :: h :: s =>
    match numbered? [a, b, c, d, e, f, g, h] with
    | some ch => basic (ch :: done) s
    | none => none
  | '\\' :: x :: s =>
    match escaped? x with
    | some ch => basic (ch :: done) s
    | none => none
  | c :: s => if isLineChar c ∧ c ≠ '\\' then basic (c :: done) s else none

def literal (s : List Char) : Option (List Char × List Char) :=
  let body := s.takeWhile fun c => isLineChar c && c ≠ '\x27'
  match s.dropWhile fun c => isLineChar c && c ≠ '\x27' with
  | '\x27' :: s => some (body, s)
  | _ => none

/-- Up to two more quotes after three belong to the text before them. -/
def closing (quote : Char) (done s : List Char) : List Char × List Char :=
  match s with
  | a :: b :: t =>
    if a = quote ∧ b = quote then ((a :: b :: done).reverse, t)
    else if a = quote then ((a :: done).reverse, b :: t)
    else (done.reverse, s)
  | [a] => if a = quote then ((a :: done).reverse, []) else (done.reverse, s)
  | [] => (done.reverse, [])

/-- What follows three quotes, up to the three closing ones. A backslash at the end of a line joins
it with the next text; `joining` is set until that is found. -/
def multiBasic (joining : Bool) (done : List Char) : List Char → Option (List Char × List Char)
  | [] => none
  | '"' :: '"' :: '"' :: s => some (closing '"' done s)
  | '\r' :: '\n' :: s => multiBasic joining (if joining then done else '\n' :: done) s
  | '\\' :: 'u' :: a :: b :: c :: d :: s =>
    match numbered? [a, b, c, d] with
    | some ch => multiBasic false (ch :: done) s
    | none => none
  | '\\' :: 'U' :: a :: b :: c :: d :: e :: f :: g :: h :: s =>
    match numbered? [a, b, c, d, e, f, g, h] with
    | some ch => multiBasic false (ch :: done) s
    | none => none
  | '\\' :: x :: s =>
    match escaped? x with
    | some ch => multiBasic false (ch :: done) s
    | none =>
      if (newline? (skipSpace (x :: s))).isSome then
        if x = '\r' then
          match s with
          | '\n' :: t => multiBasic true done t
          | _ => none
        else multiBasic true done s
      else none
  | c :: s =>
    if joining ∧ (isSpace c ∨ c = '\n') then multiBasic true done s
    else if (isLineChar c ∧ c ≠ '\\') ∨ c = '\n' then multiBasic false (c :: done) s
    else none

def multiLiteral (done : List Char) : List Char → Option (List Char × List Char)
  | [] => none
  | '\x27' :: '\x27' :: '\x27' :: s => some (closing '\x27' done s)
  | '\r' :: '\n' :: s => multiLiteral ('\n' :: done) s
  | c :: s => if isLineChar c ∨ c = '\n' then multiLiteral (c :: done) s else none

def opening (s : List Char) : List Char := (newline? s).getD s

def string? : List Char → Option (List Char × List Char)
  | '"' :: '"' :: '"' :: s => multiBasic false [] (opening s)
  | '"' :: s => basic [] s
  | '\x27' :: '\x27' :: '\x27' :: s => multiLiteral [] (opening s)
  | '\x27' :: s => literal s
  | _ => none

def isKeyChar (c : Char) : Bool :=
  ('0' ≤ c && c ≤ '9') || ('a' ≤ c && c ≤ 'z') || ('A' ≤ c && c ≤ 'Z') || c = '-' || c = '_'

def simpleKey? : List Char → Option (String × List Char)
  | '"' :: s => (basic [] s).map fun r => (String.ofList r.1, r.2)
  | '\x27' :: s => (literal s).map fun r => (String.ofList r.1, r.2)
  | s =>
    let key := s.takeWhile isKeyChar
    if key = [] then none else some (String.ofList key, s.dropWhile isKeyChar)

def separated {α : Type} (item : List Char → Option (α × List Char)) (sep : Char) (s : List Char) :
    Option (List α × List Char) :=
  match item s with
  | none => none
  | some (a, rest) =>
    match rest with
    | c :: t =>
      if c = sep ∧ t.length < s.length then
        (separated item sep t).map fun r => (a :: r.1, r.2)
      else some ([a], rest)
    | [] => some ([a], rest)
termination_by s.length

def maxDepth : Nat := 79

def spacedKey? (s : List Char) : Option (String × List Char) :=
  (simpleKey? (skipSpace s)).map fun r => (r.1, skipSpace r.2)

def key? (s : List Char) : Option (List String × List Char) :=
  (separated spacedKey? '.' s).filter fun r => r.1.length ≤ maxDepth

end RpcServer.Toml
