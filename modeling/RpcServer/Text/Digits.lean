/-! Decimal digits and the whole numbers that they write. -/

namespace RpcServer.Text

def isDigit (c : Char) : Bool := '0' ≤ c && c ≤ '9'

def digitValue (c : Char) : Nat := c.toNat - 48

def decimalValue (digits : List Char) : Nat := digits.foldl (fun n c => n * 10 + digitValue c) 0

def dropPlus : List Char → List Char
  | '+' :: s => s
  | s => s

def natural? (s : List Char) : Option Nat :=
  if dropPlus s ≠ [] ∧ (dropPlus s).all isDigit then some (decimalValue (dropPlus s)) else none

end RpcServer.Text
