import RpcServer.Text.Hex

/-! Socket addresses: `1.2.3.4:80`, `[::1]:80` and `[fe80::1%2]:80`. -/

namespace RpcServer.Net

open Text

inductive Host where
  | v4 (octets : List Nat)
  | v6 (groups : List Nat) (scope : Nat)
deriving DecidableEq

structure SocketAddress where
  host : Host
  port : Nat
deriving DecidableEq

def Host.isLocal : Host → Bool
  | .v4 octets => octets.head? = some 127 || octets = [0, 0, 0, 0]
  | .v6 groups _ => groups = [0, 0, 0, 0, 0, 0, 0, 0] || groups = [0, 0, 0, 0, 0, 0, 0, 1]

namespace SocketAddress

def isDigit (radix : Nat) (c : Char) : Bool := (Hex.value? c).any (· < radix)

def expect? (c : Char) : List Char → Option (List Char)
  | [] => none
  | d :: s => if d = c then some s else none

structure NumberForm where
  radix : Nat
  zeroPrefix : Bool
  bound : Nat
  maxDigits : Option Nat

def number? (f : NumberForm) (s : List Char) : Option (Nat × List Char) :=
  let ds := s.takeWhile (isDigit f.radix)
  let n := ds.foldl (fun n c => n * f.radix + (Hex.value? c).getD 0) 0
  if ds = [] ∨ (!f.zeroPrefix ∧ 1 < ds.length ∧ ds.head? = some '0') ∨
      f.maxDigits.any (· < ds.length) ∨ f.bound ≤ n then none
  else some (n, s.dropWhile (isDigit f.radix))

def octet : NumberForm := ⟨10, false, Nat.pow 2 8, some 3⟩

def group : NumberForm := ⟨16, true, Nat.pow 2 16, some 4⟩

def portForm : NumberForm := ⟨10, true, Nat.pow 2 16, none⟩

def scopeForm : NumberForm := ⟨10, true, Nat.pow 2 32, none⟩

def octets? (s : List Char) : Option (List Nat × List Char) := do
  let (a, s) ← number? octet s
  let (b, s) ← (expect? '.' s).bind (number? octet)
  let (c, s) ← (expect? '.' s).bind (number? octet)
  let (d, s) ← (expect? '.' s).bind (number? octet)
  return ([a, b, c, d], s)

def pairUp : List Nat → List Nat
  | a :: b :: r => (a * 256 + b) :: pairUp r
  | r => r

/-- Up to `room` groups between colons, the last two of which may be four octets; whether they were,
and the rest. -/
def groups : Nat → Bool → List Char → List Nat × Bool × List Char
  | 0, _, s => ([], false, s)
  | room + 1, atStart, s =>
    match if atStart then some s else expect? ':' s with
    | none => ([], false, s)
    | some t =>
      match if room = 0 then none else octets? t with
      | some (v4, rest) => (pairUp v4, true, rest)
      | none =>
        match number? group t with
        | none => ([], false, s)
        | some (g, rest) =>
          let (gs, mixed, rest) := groups room false rest
          (g :: gs, mixed, rest)

def groups? (s : List Char) : Option (List Nat × List Char) :=
  let (front, mixed, rest) := groups 8 true s
  if front.length = 8 then some (front, rest)
  else if mixed then none
  else do
    let rest ← (expect? ':' rest).bind (expect? ':')
    let (back, _, rest) := groups (7 - front.length) true rest
    return (front ++ List.replicate (8 - front.length - back.length) 0 ++ back, rest)

def scope (s : List Char) : Nat × List Char :=
  ((expect? '%' s).bind (number? scopeForm)).getD (0, s)

def host? (s : List Char) : Option (Host × List Char) :=
  match octets? s with
  | some (os, rest) => some (.v4 os, rest)
  | none => do
    let (gs, rest) ← (expect? '[' s).bind groups?
    let (n, rest) := scope rest
    let rest ← expect? ']' rest
    return (.v6 gs n, rest)

def parse? (s : List Char) : Option SocketAddress := do
  let (host, rest) ← host? s
  let (port, rest) ← (expect? ':' rest).bind (number? portForm)
  if rest = [] then some ⟨host, port⟩ else none

end SocketAddress

end RpcServer.Net
