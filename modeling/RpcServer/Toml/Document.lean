import RpcServer.Toml.Scalar

/-! TOML documents: sections under headers, each a list of assignments. -/

namespace RpcServer.Toml

def assignment? (value : List Char → Option (Value × List Char)) (s : List Char) :
    Option (Entries.Assignment × List Char) := do
  let (path, s) ← key? s
  let s ← mark? '=' s
  let (v, s) ← value (skipSpace s)
  let last ← path.getLast?
  return (⟨path.dropLast, last, v⟩, skipSpace s)

def item? (value : List Char → Option (Value × List Char)) (s : List Char) :
    Option (Value × List Char) :=
  (value (skipBlank s)).map fun r => (r.1, skipBlank r.2)

def element (value : List Char → Option (Value × List Char)) (s : List Char) :
    Option Value × List Char :=
  match item? value s with
  | some (v, rest) => (some v, rest)
  | none => (none, skipBlank s)

def array? (value : List Char → Option (Value × List Char)) (s : List Char) :
    Option (Value × List Char) :=
  match separated (fun s => some (element value s)) ',' s with
  | some (items, ']' :: rest) =>
    if items.dropLast.all Option.isSome then some (.array (items.filterMap id), rest) else none
  | _ => none

def inlineTable? (value : List Char → Option (Value × List Char)) (s : List Char) :
    Option (Value × List Char) :=
  match skipSpace s with
  | '\x7d' :: rest => some (.table .inline [], rest)
  | s =>
    match separated (assignment? value) ',' s with
    | some (as, '\x7d' :: rest) =>
      (Entries.assignAll [] as).map fun es => (.table .inline es, rest)
    | _ => none

def value? : Nat → List Char → Option (Value × List Char)
  | 0, s =>
    match s with
    | '[' :: _ => none
    | '\x7b' :: _ => none
    | s => scalar? s
  | depth + 1, s =>
    match s with
    | '[' :: s => array? (value? depth) s
    | '\x7b' :: s => inlineTable? (value? depth) s
    | s => scalar? s

inductive Line where
  | table (path : List String)
  | item (path : List String)
  | assignment (a : Entries.Assignment)

def header? (close : List Char → Option (List Char)) (s : List Char) :
    Option (List String × List Char) := do
  let (path, s) ← key? s
  let s ← close s
  return (path, s)

def closeItem? (s : List Char) : Option (List Char) := (mark? ']' s).bind (mark? ']')

def line? : List Char → Option (Line × List Char)
  | '[' :: '[' :: s => (header? closeItem? s).map fun r => (.item r.1, r.2)
  | '[' :: s => (header? (mark? ']') s).map fun r => (.table r.1, r.2)
  | s => (assignment? (value? maxDepth) s).map fun r => (.assignment r.1, r.2)

def lines? (s : List Char) : Option (List Line) :=
  match skipBlank s with
  | [] => some []
  | c :: t =>
    if c = '#' then
      if (skipComment (c :: t)).isEmpty then some [] else none
    else
      match line? (c :: t) with
      | none => none
      | some (l, rest) =>
        match lineEnd? rest with
        | none => none
        | some rest => if rest.length < s.length then (lines? rest).map (l :: ·) else none
termination_by s.length

def assignments : List Line → List Entries.Assignment × List Line
  | .assignment a :: ls =>
    let (as, rest) := assignments ls
    (a :: as, rest)
  | ls => ([], ls)

theorem length_assignments (ls : List Line) : (assignments ls).2.length ≤ ls.length := by
  fun_induction assignments ls with
  | case1 a ls as rest h ih => simp [h] at ih ⊢; omega
  | case2 => simp

def section? (define : String → List Entries.Assignment → Entries → Option Entries)
    (path : List String) (as : List Entries.Assignment) (root : Entries) : Option Entries :=
  path.getLast?.bind fun key => Entries.inHeaded (define key as) path.dropLast root

def sections? (root : Entries) (ls : List Line) : Option Entries :=
  match ls with
  | [] => some root
  | .assignment _ :: _ => none
  | .table path :: rest =>
    (section? Entries.defineTable path (assignments rest).1 root).bind fun root =>
      sections? root (assignments rest).2
  | .item path :: rest =>
    (section? Entries.defineItem path (assignments rest).1 root).bind fun root =>
      sections? root (assignments rest).2
termination_by ls.length
decreasing_by
  all_goals
    have := length_assignments rest
    simp
    omega

def document? (s : List Char) : Option Entries := do
  let s := match s with
    | '\uFEFF' :: t => t
    | t => t
  let ls ← lines? s
  let (as, rest) := assignments ls
  let root ← Entries.assignAll [] as
  sections? root rest

end RpcServer.Toml
