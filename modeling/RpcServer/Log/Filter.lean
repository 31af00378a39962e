import RpcServer.Log.Event
import RpcServer.Text.Blank
import RpcServer.Text.Case
import RpcServer.Text.Digits
import RpcServer.Text.Split
import RpcServer.Text.Utf8

/-! Filters of log events: directives such as `info` and `http::server=debug`, of which the most
specific one that fits an event's target decides. -/

namespace RpcServer.Log

open Text

abbrev Threshold := Option Level

namespace Threshold

/-- The thresholds by name; the place of each is its number. -/
def named : List (String × Threshold) :=
  [("off", none), ("error", some .error), ("warn", some .warn), ("info", some .info),
    ("debug", some .debug), ("trace", some .trace)]

def parse? (s : List Char) : Option Threshold :=
  let byNumber := (natural? s).bind fun n => named[n]?
  (byNumber.or (named.find? fun t => sameIgnoringCase t.1 (String.ofList s))).map (·.2)

def name (t : Threshold) : String := ((named.find? fun e => e.2 = t).map (·.1)).getD ""

def passes (t : Threshold) (level : Level) : Bool := t.any fun least => least.rank ≤ level.rank

end Threshold

structure Directive where
  target : Option String
  threshold : Threshold
deriving DecidableEq

namespace Directive

def symbolRanges : List (Nat × Nat) :=
  [(0x80, 0xa9), (0xab, 0xb1), (0xb4, 0xb4), (0xb6, 0xb8), (0xbb, 0xbb), (0xbf, 0xbf),
   (0xd7, 0xd7), (0xf7, 0xf7), (0x2000, 0x206f), (0x20a0, 0x20ff), (0x2190, 0x23ff),
   (0x2500, 0x2bff), (0x3000, 0x3004), (0x3008, 0x3020), (0xe000, 0xf8ff), (0xfe00, 0xfe6f),
   (0x1f000, 0x1f0ff), (0x1f300, 0x1faff)]

def isSymbol (c : Char) : Bool := symbolRanges.any fun r => r.1 ≤ c.toNat && c.toNat ≤ r.2

def isStart (c : Char) : Bool :=
  c.isAlphanum || c = '-' || c = ':' || c = '_' || (0x80 ≤ c.toNat && !isSymbol c)

def ofWord (s : List Char) : Directive :=
  match Threshold.parse? s with
  | some t => ⟨none, t⟩
  | none => ⟨some (String.ofList s), some .trace⟩

def thresholdAfterSign? (s : List Char) : Option Threshold :=
  if s = [] then some (some .trace) else Threshold.parse? s

/-- The directive of a piece. Its start and the place of its equals sign are looked for without the
blanks around it, and the piece is then cut at that place with them. -/
def parse? (piece : List Char) : Option Directive :=
  let inner := trim piece
  let word := beforeFirst '=' inner
  if !inner.head?.any isStart || word.contains '[' then none
  else if word.length = inner.length then some (ofWord piece)
  else
    (thresholdAfterSign? (piece.drop (word.length + 1))).map fun t =>
      ⟨some (String.ofList (piece.take word.length)), t⟩

def size (target : String) : Nat := Utf8.size target.toList

/-- Longer targets are more specific; among those of one length the order is that of texts, from the
last to the first. -/
def precedes (d e : Directive) : Bool :=
  match d.target, e.target with
  | none, _ => false
  | some _, none => true
  | some a, some b => if size a = size b then b < a else size b < size a

def covers (d : Directive) (target : String) : Bool :=
  d.target.all fun t => t.toList.isPrefixOf target.toList

def render (d : Directive) : String :=
  match d.target with
  | none => d.threshold.name
  | some target => target ++ "=" ++ d.threshold.name

end Directive

structure Filter where
  directives : List Directive
deriving DecidableEq

namespace Filter

def insert (d : Directive) : List Directive → List Directive
  | [] => [d]
  | e :: es =>
    if e.target = d.target then d :: es
    else if d.precedes e then d :: e :: es
    else e :: insert d es

def off : Filter := ⟨[⟨none, none⟩]⟩

def default : Filter := ⟨[⟨none, some .info⟩]⟩

def ofDirectives (ds : List Directive) : Filter :=
  if ds = [] then off else ⟨ds.foldl (fun es d => insert d es) []⟩

def parse? (s : String) : Option Filter :=
  (((pieces ',' s.toList).filter (· ≠ [])).mapM Directive.parse?).map ofDirectives

def choose (environment : Option String) (setting : String) : Filter :=
  ((environment.bind parse?).or (parse? setting)).getD default

def render (f : Filter) : String := String.intercalate "," (f.directives.map Directive.render)

def passes (f : Filter) (level : Level) (target : String) : Bool :=
  (f.directives.find? fun d => d.covers target).any fun d => d.threshold.passes level

end Filter

end RpcServer.Log
