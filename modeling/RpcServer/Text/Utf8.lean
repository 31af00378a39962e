/-! UTF-8. Reading marks each longest start of a broken sequence by one hole, so that strict and
forgiving readers share one scan. -/

namespace RpcServer.Text.Utf8

def encode (s : List Char) : List UInt8 := s.flatMap String.utf8EncodeChar

def size (s : List Char) : Nat := (encode s).length

def second (b : UInt8) : Option (UInt8 × UInt8) :=
  if b < 0xc2 then none
  else if b < 0xe0 then some (0x80, 0xbf)
  else if b = 0xe0 then some (0xa0, 0xbf)
  else if b = 0xed then some (0x80, 0x9f)
  else if b < 0xf0 then some (0x80, 0xbf)
  else if b = 0xf0 then some (0x90, 0xbf)
  else if b < 0xf4 then some (0x80, 0xbf)
  else if b = 0xf4 then some (0x80, 0x8f)
  else none

inductive Pending where
  | none
  | more (value : Nat) (missing : Nat) (lo hi : UInt8)

def start (b : UInt8) : Option Char ⊕ Pending :=
  if b < 0x80 then .inl (some (Char.ofNat b.toNat))
  else
    match second b with
    | .none => .inl .none
    | some (lo, hi) =>
      if b < 0xe0 then .inr (.more (b.toNat - 0xc0) 1 lo hi)
      else if b < 0xf0 then .inr (.more (b.toNat - 0xe0) 2 lo hi)
      else .inr (.more (b.toNat - 0xf0) 3 lo hi)

def begin (done : List (Option Char)) (b : UInt8) : List (Option Char) × Pending :=
  match start b with
  | .inl c => (c :: done, .none)
  | .inr p => (done, p)

def step : List (Option Char) × Pending → UInt8 → List (Option Char) × Pending
  | (done, .none), b => begin done b
  | (done, .more value missing lo hi), b =>
    if lo ≤ b && b ≤ hi then
      let value := value * 64 + (b.toNat - 0x80)
      if missing ≤ 1 then (some (Char.ofNat value) :: done, .none)
      else (done, .more value (missing - 1) 0x80 0xbf)
    else begin (none :: done) b

def finish : List (Option Char) × Pending → List (Option Char)
  | (done, .none) => done.reverse
  | (done, .more ..) => (none :: done).reverse

def scan (bytes : List UInt8) : List (Option Char) := finish (bytes.foldl step ([], .none))

def decode? (bytes : List UInt8) : Option (List Char) := (scan bytes).mapM id

def decodeLossy (bytes : List UInt8) : List Char := (scan bytes).map fun c => c.getD '\uFFFD'

theorem encode_cons (c : Char) (s : List Char) :
    encode (c :: s) = String.utf8EncodeChar c ++ encode s := rfl

theorem encode_append (s t : List Char) : encode (s ++ t) = encode s ++ encode t := by
  simp [encode]

theorem size_append (s t : List Char) : size (s ++ t) = size s + size t := by
  simp [size, encode_append]

end RpcServer.Text.Utf8
