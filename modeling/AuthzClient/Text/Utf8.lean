/-!
UTF-8 over byte lists: writing characters, and one reader with two views. `decode?` refuses a byte sequence that is
not UTF-8; `decodeLossy` puts U+FFFD in the place of every longest beginning of a character that is not continued.
-/

namespace AuthzClient.Text.Utf8

def encodeChar (c : Char) : List UInt8 :=
  let n := c.toNat
  if n < 0x80 then [n.toUInt8]
  else if n < 0x800 then [(0xc0 + n / 0x40).toUInt8, (0x80 + n % 0x40).toUInt8]
  else if n < 0x10000 then
    [(0xe0 + n / 0x1000).toUInt8, (0x80 + n / 0x40 % 0x40).toUInt8, (0x80 + n % 0x40).toUInt8]
  else
    [(0xf0 + n / 0x40000).toUInt8, (0x80 + n / 0x1000 % 0x40).toUInt8, (0x80 + n / 0x40 % 0x40).toUInt8,
      (0x80 + n % 0x40).toUInt8]

def encodeChars (cs : List Char) : List UInt8 := cs.flatMap encodeChar

def encode (s : String) : List UInt8 := encodeChars s.toList

def size (s : String) : Nat := s.utf8ByteSize

def isTail (b : UInt8) : Bool := 0x80 ≤ b && b < 0xc0

/-- Whether `next` can stand behind the leading byte `lead`. Overlong forms, surrogates and numbers above U+10FFFF
are refused here, at the second byte. -/
def follows (lead next : UInt8) : Bool :=
  if lead < 0xc2 then false
  else if lead < 0xe0 then isTail next
  else if lead == 0xe0 then 0xa0 ≤ next && next < 0xc0
  else if lead == 0xed then 0x80 ≤ next && next < 0xa0
  else if lead < 0xf0 then isTail next
  else if lead == 0xf0 then 0x90 ≤ next && next < 0xc0
  else if lead < 0xf4 then isTail next
  else if lead == 0xf4 then 0x80 ≤ next && next < 0x90
  else false

/-- The character that replaces what is not UTF-8. -/
def replacement : Char := '\ufffd'

/-- The payload of a byte that continues a character. -/
def low (b : UInt8) : Nat := b.toNat % 0x40

/-- Reads characters in order. `seen` holds the characters read so far, last one first; `clean` says whether all of
them stood in the bytes. -/
def scan (seen : List Char) (clean : Bool) : List UInt8 → List Char × Bool
  | [] => (seen.reverse, clean)
  | b0 :: rest1 =>
    if b0 < 0x80 then scan (Char.ofNat b0.toNat :: seen) clean rest1
    else
      match rest1 with
      | [] => ((replacement :: seen).reverse, false)
      | b1 :: rest2 =>
        if !follows b0 b1 then scan (replacement :: seen) false (b1 :: rest2)
        else if b0 < 0xe0 then scan (Char.ofNat (b0.toNat % 0x20 * 0x40 + low b1) :: seen) clean rest2
        else
          match rest2 with
          | [] => ((replacement :: seen).reverse, false)
          | b2 :: rest3 =>
            if !isTail b2 then scan (replacement :: seen) false (b2 :: rest3)
            else if b0 < 0xf0 then
              scan (Char.ofNat (b0.toNat % 0x10 * 0x1000 + low b1 * 0x40 + low b2) :: seen) clean rest3
            else
              match rest3 with
              | [] => ((replacement :: seen).reverse, false)
              | b3 :: rest4 =>
                if !isTail b3 then scan (replacement :: seen) false (b3 :: rest4)
                else
                  scan (Char.ofNat (b0.toNat % 8 * 0x40000 + low b1 * 0x1000 + low b2 * 0x40 + low b3) :: seen)
                    clean rest4

/-- The characters that a byte sequence writes, if it is UTF-8 from end to end. -/
def decode? (bs : List UInt8) : Option (List Char) :=
  let (cs, clean) := scan [] true bs
  if clean then some cs else none

/-- The characters of a byte sequence, U+FFFD standing for whatever is not UTF-8. -/
def decodeLossy (bs : List UInt8) : List Char := (scan [] true bs).1

end AuthzClient.Text.Utf8
