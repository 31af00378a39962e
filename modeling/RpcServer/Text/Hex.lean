/-! Hexadecimal digits. -/

namespace RpcServer.Text.Hex

def isLowerDigit (c : Char) : Bool := ('0' ≤ c && c ≤ '9') || ('a' ≤ c && c ≤ 'f')

def value? (c : Char) : Option Nat :=
  if '0' ≤ c && c ≤ '9' then some (c.toNat - 48)
  else if 'a' ≤ c && c ≤ 'f' then some (c.toNat - 87)
  else if 'A' ≤ c && c ≤ 'F' then some (c.toNat - 55)
  else none

def number? (s : List Char) : Option Nat :=
  s.foldlM (fun n c => (value? c).map fun d => n * 16 + d) 0

def digit (n : Nat) : Char := if n < 10 then Char.ofNat (48 + n) else Char.ofNat (87 + n)

def ofByte (b : UInt8) : List Char := [digit (b.toNat / 16), digit (b.toNat % 16)]

def ofBytes (bs : List UInt8) : List Char := bs.flatMap ofByte

def bytes? : List Char → Option (List UInt8)
  | [] => some []
  | [_] => none
  | a :: b :: rest => do
    let hi ← value? a
    let lo ← value? b
    (bytes? rest).map (UInt8.ofNat (hi * 16 + lo) :: ·)

def ofNat (n : Nat) : List Char := Nat.toDigits 16 n

theorem digit_spec {n : Nat} (h : n < 16) :
    value? (digit n) = some n ∧ isLowerDigit (digit n) = true := by
  have hd : ∀ k : Fin 16, value? (digit k) = some k.val ∧ isLowerDigit (digit k) = true := by decide
  exact hd ⟨n, h⟩

theorem number?_ofByte (b : UInt8) : number? (ofByte b) = some b.toNat := by
  have hb := UInt8.toNat_lt b
  have hi := (digit_spec (n := b.toNat / 16) (by omega)).1
  have lo := (digit_spec (n := b.toNat % 16) (by omega)).1
  have hn : b.toNat / 16 * 16 + b.toNat % 16 = b.toNat := by omega
  simp [number?, ofByte, List.foldlM, hi, lo, hn]

theorem isLowerDigit_ofByte {b : UInt8} {c : Char} (h : c ∈ ofByte b) : isLowerDigit c = true := by
  have hb := UInt8.toNat_lt b
  simp only [ofByte, List.mem_cons, List.not_mem_nil, or_false] at h
  rcases h with rfl | rfl
  · exact (digit_spec (by omega)).2
  · exact (digit_spec (by omega)).2

end RpcServer.Text.Hex
