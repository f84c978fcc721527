import AuthzClient.Text.Digit
import AuthzClient.Text.Utf8

/-!
Percent encoding: a byte outside an allowed set is written as `%` with two digits in base sixteen. Decoding takes every
such triple back and leaves all other bytes alone.
-/

namespace AuthzClient.Text.Percent

/-- The digit of a number below sixteen, letters in upper case. -/
def hexDigit (n : Nat) : Char := if n < 10 then Char.ofNat (48 + n) else Char.ofNat (55 + n)

def escape (b : UInt8) : List Char := ['%', hexDigit (b.toNat / 16), hexDigit (b.toNat % 16)]

/-- Writes bytes, those that are not allowed in encoded form. Only ASCII may be allowed. -/
def encodeBytes (allowed : UInt8 → Bool) (bs : List UInt8) : List Char :=
  bs.flatMap fun b => if allowed b then [Char.ofNat b.toNat] else escape b

/-- Writes characters, the bytes that are not allowed in encoded form. -/
def encodeChars (allowed : UInt8 → Bool) (cs : List Char) : List Char := encodeBytes allowed (Utf8.encodeChars cs)

def decode : List UInt8 → List UInt8
  | [] => []
  | b :: rest =>
    if b == 0x25 then
      match rest with
      | h :: l :: more =>
        match hexValue? h, hexValue? l with
        | some h, some l => (h * 16 + l).toUInt8 :: decode more
        | _, _ => b :: decode (h :: l :: more)
      | more => b :: decode more
    else b :: decode rest

def isAlphanumeric (b : UInt8) : Bool :=
  (0x30 ≤ b && b ≤ 0x39) || (0x41 ≤ b && b ≤ 0x5a) || (0x61 ≤ b && b ≤ 0x7a)

/-- A byte that never needs encoding: a letter, a digit, or one of `-`, `.`, `_`, `~`. -/
def isUnreserved (b : UInt8) : Bool := isAlphanumeric b || b == 0x2d || b == 0x2e || b == 0x5f || b == 0x7e

/-- The encoded form of a text as one piece of a path: nothing but unreserved characters stays. -/
def component (s : String) : String := String.ofList (encodeChars isUnreserved s.toList)

end AuthzClient.Text.Percent
