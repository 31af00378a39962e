import RpcServer.Json.Printer
import RpcServer.Text.Inspection

/-! What travels through the server as request or reply. A message has a wire form, which is JSON
text; everything else is only ever shown as structural text. -/

namespace RpcServer

inductive Data.Key where
  | text (s : String)
  | integer (n : Int)
  | bool (b : Bool)
  | single (x : Binary32)
  | binary (x : Binary64)
  | other

/-- Data as it gives itself to an encoder, which it may refuse with a reason. Whole numbers may be too
wide for a value of the envelope, and a table may give a name again. -/
inductive Data where
  | null
  | bool (b : Bool)
  | integer (n : Int)
  | single (x : Binary32)
  | binary (x : Binary64)
  | text (s : String)
  | list (items : List Data)
  | table (entries : List (Data.Key × Data))
  | refused (reason : String)

namespace Data

inductive Failure where
  | keyNotText
  | keyNotFinite
  | numberOutOfRange
  | refused (reason : String)
deriving DecidableEq

def Failure.message : Failure → String
  | .keyNotText => "key must be a string"
  | .keyNotFinite => "float key must be finite"
  | .numberOutOfRange => "number out of range"
  | .refused reason => reason

def Key.name : Key → Except Failure String
  | .text s => .ok s
  | .integer n => .ok (toString n)
  | .bool b => .ok (String.ofList (Json.renderBool b))
  | .single x => if x.isFinite then .ok (String.ofList x.render) else .error .keyNotFinite
  | .binary x => if x.isFinite then .ok (String.ofList x.render) else .error .keyNotFinite
  | .other => .error .keyNotText

def ofBinary (x : Binary64) : Json := if x.isFinite then .number (.binary x) else .null

def ofSingle (x : Binary32) : Json := if x.isFinite then .number (.binary x.widen) else .null

mutual

/-- The value, as the envelope embeds it. Of entries with one name the last counts. -/
def value : Data → Except Failure Json
  | .null => .ok .null
  | .bool b => .ok (.bool b)
  | .integer n => if Json.lowest ≤ n ∧ n ≤ Json.highest then .ok (.int n) else .error .numberOutOfRange
  | .single x => .ok (ofSingle x)
  | .binary x => .ok (ofBinary x)
  | .text s => .ok (.string s)
  | .list items => (values items).map .array
  | .table entries => (fields entries).map Json.ofFields
  | .refused reason => .error (.refused reason)

def values : List Data → Except Failure (List Json)
  | [] => .ok []
  | d :: ds =>
    match value d with
    | .error e => .error e
    | .ok v => (values ds).map (v :: ·)

def fields : List (Key × Data) → Except Failure (List (String × Json))
  | [] => .ok []
  | (k, d) :: es =>
    match k.name with
    | .error e => .error e
    | .ok name =>
      match value d with
      | .error e => .error e
      | .ok v => (fields es).map ((name, v) :: ·)

end

def singleText (x : Binary32) : List Char := if x.isFinite then x.render else ['n', 'u', 'l', 'l']

mutual

/-- Puts the wire form in reverse in front of `done`, piece by piece, with every entry of a table. -/
def write (done : List Char) : Data → Except Failure (List Char)
  | .null => .ok (['l', 'l', 'u', 'n'] ++ done)
  | .bool b => .ok ((Json.renderBool b).reverse ++ done)
  | .integer n => .ok ((toString n).toList.reverse ++ done)
  | .single x => .ok ((singleText x).reverse ++ done)
  | .binary x => .ok ((Json.Number.render (.binary x)).reverse ++ done)
  | .text s => .ok ((Json.renderString s).reverse ++ done)
  | .list [] => .ok (']' :: '[' :: done)
  | .list (d :: ds) =>
    match write ('[' :: done) d with
    | .error e => .error e
    | .ok out => writeItems out ds
  | .table [] => .ok ('\x7d' :: '\x7b' :: done)
  | .table ((k, d) :: es) =>
    match k.name with
    | .error e => .error e
    | .ok name =>
      match write (':' :: ((Json.renderString name).reverse ++ '\x7b' :: done)) d with
      | .error e => .error e
      | .ok out => writeEntries out es
  | .refused reason => .error (.refused reason)

def writeItems (done : List Char) : List Data → Except Failure (List Char)
  | [] => .ok (']' :: done)
  | d :: ds =>
    match write (',' :: done) d with
    | .error e => .error e
    | .ok out => writeItems out ds

def writeEntries (done : List Char) : List (Key × Data) → Except Failure (List Char)
  | [] => .ok ('\x7d' :: done)
  | (k, d) :: es =>
    match k.name with
    | .error e => .error e
    | .ok name =>
      match write (':' :: ((Json.renderString name).reverse ++ ',' :: done)) d with
      | .error e => .error e
      | .ok out => writeEntries out es

end

def wire (d : Data) : Except Failure (List Char) := (write [] d).map List.reverse

end Data

inductive Payload where
  | value (v : Json)
  | document (v : Json)
  | message (d : Data)
  | unit
  | string (s : String)
  | literal (s : String)
  | bytes (bs : List UInt8)
  | inspected (i : Inspection)

namespace Payload

def isMessage : Payload → Bool
  | .value _ | .document _ | .message _ => true
  | _ => false

def wire? : Payload → Option (Except Data.Failure (List Char))
  | .value v => some (.ok v.render)
  | .document v => some (.ok v.render)
  | .message d => some d.wire
  | _ => none

def value? : Payload → Option (Except Data.Failure Json)
  | .value v => some (.ok v)
  | .document v => some (.ok v)
  | .message d => some d.value
  | _ => none

def inspection : Payload → Inspection
  | .string s => .text s
  | .literal s => .text s
  | .bytes bs => .ofBytes bs
  | .inspected i => i
  | _ => .unit

def document? : Payload → Option Json
  | .document v => some v
  | _ => none

end Payload

end RpcServer
