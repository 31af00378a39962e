/-! Values of TOML documents, and how tables grow as a document is read. -/

namespace RpcServer.Toml

inductive Form where
  | inline
  | headed
  | implied
  | dotted
deriving DecidableEq

/-- Numbers with a fraction, dates and times are recognized and keep no value. An array of tables
grows by headers. -/
inductive Value where
  | string (s : String)
  | integer (n : Int)
  | float
  | bool (b : Bool)
  | moment
  | array (items : List Value)
  | table (form : Form) (entries : List (String × Value))
  | tables (items : List (List (String × Value)))

abbrev Entries := List (String × Value)

namespace Entries

def get? (es : Entries) (key : String) : Option Value := (es.find? fun e => e.1 = key).map (·.2)

def set (es : Entries) (key : String) (v : Value) : Entries :=
  match es with
  | [] => [(key, v)]
  | e :: es => if e.1 = key then (key, v) :: es else e :: set es key v

def add? (es : Entries) (key : String) (v : Value) : Option Entries :=
  if (es.get? key).isSome then none else some (es ++ [(key, v)])

def inLast (f : Entries → Option Entries) : List Entries → Option (List Entries)
  | [] => none
  | [es] => (f es).map fun es => [es]
  | es :: rest => (inLast f rest).map (es :: ·)

/-- Changes the entries at the end of a path of dotted keys. The tables on the way may be created,
and may be those that no header has defined; the last one has to stem from dotted keys. -/
def inDotted (f : Entries → Option Entries) : List String → Entries → Option Entries
  | [], es => f es
  | key :: path, es =>
    match es.get? key with
    | none => (inDotted f path []).map fun sub => es.set key (.table .dotted sub)
    | some (.table form sub) =>
      if form = .dotted ∨ (form = .implied ∧ path ≠ []) then
        (inDotted f path sub).map fun sub => es.set key (.table form sub)
      else none
    | some (.tables items) =>
      if path = [] then none
      else (inLast (inDotted f path) items).map fun items => es.set key (.tables items)
    | _ => none

/-- Changes the entries at the end of a path of headers, where an array of tables stands for its
last table. -/
def inHeaded (f : Entries → Option Entries) : List String → Entries → Option Entries
  | [], es => f es
  | key :: path, es =>
    match es.get? key with
    | none => (inHeaded f path []).map fun sub => es.set key (.table .implied sub)
    | some (.table form sub) =>
      if form = .inline then none
      else (inHeaded f path sub).map fun sub => es.set key (.table form sub)
    | some (.tables items) =>
      (inLast (inHeaded f path) items).map fun items => es.set key (.tables items)
    | _ => none

def assign (es : Entries) (path : List String) (key : String) (v : Value) : Option Entries :=
  inDotted (fun es => es.add? key v) path es

structure Assignment where
  path : List String
  key : String
  value : Value

def assignAll (es : Entries) (as : List Assignment) : Option Entries :=
  as.foldlM (fun es a => es.assign a.path a.key a.value) es

def defineTable (key : String) (as : List Assignment) (es : Entries) : Option Entries :=
  match es.get? key with
  | none => (assignAll [] as).map fun sub => es.set key (.table .headed sub)
  | some (.table .implied sub) => (assignAll sub as).map fun sub => es.set key (.table .headed sub)
  | _ => none

def defineItem (key : String) (as : List Assignment) (es : Entries) : Option Entries :=
  match es.get? key with
  | none => (assignAll [] as).map fun sub => es.set key (.tables [sub])
  | some (.tables items) => (assignAll [] as).map fun sub => es.set key (.tables (items ++ [sub]))
  | _ => none

end Entries

end RpcServer.Toml
