/-! What is wrong with a text that should be JSON, and where. Texts are seen as bytes here, each as
the character of its number. -/

namespace RpcServer.Json

inductive Cause where
  | endOfList
  | endOfObject
  | endOfString
  | endOfValue
  | noColon
  | noListEnd
  | noObjectEnd
  | noWord
  | noValue
  | badEscape
  | badNumber
  | largeNumber
  | badCodePoint
  | controlCharacter
  | nameNotText
  | loneHalf
  | missingHalf
  | trailingComma
  | trailingText
  | tooDeep
  | wrongType (found expected : String)
  | wrongValue (found expected : String)
  | wrongLength (length : Nat) (expected : String)
  | missingField (name : String)
  | repeatedField (name : String)
deriving DecidableEq

namespace Cause

def marked (name : String) : String := "\x60" ++ name ++ "\x60"

def message : Cause → String
  | .endOfList => "EOF while parsing a list"
  | .endOfObject => "EOF while parsing an object"
  | .endOfString => "EOF while parsing a string"
  | .endOfValue => "EOF while parsing a value"
  | .noColon => "expected " ++ marked ":"
  | .noListEnd => "expected " ++ marked "," ++ " or " ++ marked "]"
  | .noObjectEnd => "expected " ++ marked "," ++ " or " ++ marked "\x7d"
  | .noWord => "expected ident"
  | .noValue => "expected value"
  | .badEscape => "invalid escape"
  | .badNumber => "invalid number"
  | .largeNumber => "number out of range"
  | .badCodePoint => "invalid unicode code point"
  | .controlCharacter => "control character (\\u0000-\\u001F) found while parsing a string"
  | .nameNotText => "key must be a string"
  | .loneHalf => "lone leading surrogate in hex escape"
  | .missingHalf => "unexpected end of hex escape"
  | .trailingComma => "trailing comma"
  | .trailingText => "trailing characters"
  | .tooDeep => "recursion limit exceeded"
  | .wrongType found expected => "invalid type: " ++ found ++ ", expected " ++ expected
  | .wrongValue found expected => "invalid value: " ++ found ++ ", expected " ++ expected
  | .wrongLength n expected => "invalid length " ++ toString n ++ ", expected " ++ expected
  | .missingField name => "missing field " ++ marked name
  | .repeatedField name => "duplicate field " ++ marked name

end Cause

structure Fault where
  cause : Cause
  rest : List Char
deriving DecidableEq

namespace Fault

def before (f : Fault) (text : List Char) : List Char := text.take (text.length - f.rest.length)

def line (f : Fault) (text : List Char) : Nat := 1 + (f.before text).count '\n'

def column (f : Fault) (text : List Char) : Nat :=
  ((f.before text).reverse.takeWhile (· ≠ '\n')).length

def message (f : Fault) (text : List Char) : String :=
  f.cause.message ++ " at line " ++ toString (f.line text) ++ " column " ++
    toString (f.column text)

end Fault

end RpcServer.Json
