/-!
Digits in bases up to sixteen, letters of either case standing for the digits from ten on.
-/

namespace AuthzClient.Text

def digitIn? (base : Nat) (c : Char) : Option Nat :=
  let value? := if '0' ≤ c && c ≤ '9' then some (c.toNat - 48)
    else if 'a' ≤ c && c ≤ 'f' then some (c.toNat - 87)
    else if 'A' ≤ c && c ≤ 'F' then some (c.toNat - 55)
    else none
  value?.filter (· < base)

/-- The number that digits write in a base; no digits write zero. -/
def inBase? (base : Nat) (digits : List Char) : Option Nat :=
  digits.foldlM (fun n c => (digitIn? base c).map (n * base + ·)) 0

/-- The character with a number, if there is one. -/
def charWith? (n : Nat) : Option Char :=
  if n < 0xd800 ∨ (0xe000 ≤ n ∧ n < 0x110000) then some (Char.ofNat n) else none

/-- The character whose number digits write in base sixteen. -/
def charOf? (digits : List Char) : Option Char := (inBase? 16 digits).bind charWith?

/-- The value of a digit in base sixteen that a byte stands for. -/
def hexValue? (b : UInt8) : Option Nat :=
  if 0x30 ≤ b && b ≤ 0x39 then some (b.toNat - 48)
  else if 0x41 ≤ b && b ≤ 0x46 then some (b.toNat - 55)
  else if 0x61 ≤ b && b ≤ 0x66 then some (b.toNat - 87)
  else none

end AuthzClient.Text
