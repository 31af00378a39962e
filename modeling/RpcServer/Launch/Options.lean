/-! The command line: where the settings are, and which address to bind instead of theirs. -/

namespace RpcServer.Launch

structure Options where
  config : Option String := none
  bind : Option String := none
deriving DecidableEq

inductive OptionName where
  | config
  | bind
deriving DecidableEq

namespace OptionName

def ofLong? (s : List Char) : Option OptionName :=
  if s = "config".toList then some .config else if s = "bind".toList then some .bind else none

def ofShort? (c : Char) : Option OptionName :=
  if c = 'c' then some .config else if c = 'b' then some .bind else none

end OptionName

inductive Word where
  | help
  | option (name : OptionName) (value : Option (List Char))
  | separator
  | other
deriving DecidableEq

namespace Word

def dropEquals : List Char → List Char
  | '=' :: s => s
  | s => s

def ofLong (s : List Char) : Word :=
  let name := s.takeWhile (· ≠ '=')
  let value := if name.length = s.length then none else some (s.drop (name.length + 1))
  match OptionName.ofLong? name with
  | some n => .option n value
  | none => if name = "help".toList ∧ value = none then .help else .other

def ofShort (c : Char) (rest : List Char) : Word :=
  match OptionName.ofShort? c with
  | some n => .option n (if rest = [] then none else some (dropEquals rest))
  | none => if c = 'h' then .help else .other

def ofArgument (argument : String) : Word :=
  match argument.toList with
  | ['-', '-'] => .separator
  | '-' :: '-' :: s => ofLong s
  | '-' :: c :: s => ofShort c s
  | _ => .other

def isValue (argument : String) : Bool :=
  argument.toList.head? ≠ some '-' || argument.toList = ['-']

end Word

inductive Invocation where
  | run (o : Options)
  | help
  | misuse
deriving DecidableEq

namespace Options

def set? (o : Options) (name : OptionName) (value : String) : Option Options :=
  match name with
  | .config => if o.config.isNone ∧ value ≠ "" then some { o with config := some value } else none
  | .bind => if o.bind.isNone then some { o with bind := some value } else none

def read (o : Options) : List String → Invocation
  | [] => .run o
  | argument :: rest =>
    match Word.ofArgument argument with
    | .help => .help
    | .other => .misuse
    | .separator => if rest = [] then .run o else .misuse
    | .option name (some value) =>
      match o.set? name (String.ofList value) with
      | some o => o.read rest
      | none => .misuse
    | .option name none =>
      match rest with
      | [] => .misuse
      | value :: rest =>
        if Word.isValue value then
          match o.set? name value with
          | some o => o.read rest
          | none => .misuse
        else .misuse

def ofArguments (arguments : List String) : Invocation := read {} arguments

end Options

end RpcServer.Launch
