/-!
White space in the sense of the Unicode property White_Space. Settings, identifiers and stream lines are all trimmed
and judged blank by this one class.
-/

namespace AuthzClient.Text

/-- A character with the Unicode property White_Space. -/
def isWhite (c : Char) : Bool :=
  let n := c.toNat
  (9 ≤ n && n ≤ 13) || n == 0x20 || n == 0x85 || n == 0xa0 || n == 0x1680 || (0x2000 ≤ n && n ≤ 0x200a) ||
    n == 0x2028 || n == 0x2029 || n == 0x202f || n == 0x205f || n == 0x3000

/-- The characters without the white space at both ends. -/
def trimChars (cs : List Char) : List Char :=
  ((cs.dropWhile isWhite).reverse.dropWhile isWhite).reverse

/-- A text without the white space at both ends. -/
def trim (s : String) : String := String.ofList (trimChars s.toList)

/-- A text of white space alone; the empty text is blank. -/
def isBlank (s : String) : Bool := s.toList.all isWhite

def isDigit (c : Char) : Bool := '0' ≤ c && c ≤ '9'

def digitValue (c : Char) : Nat := c.toNat - '0'.toNat

/-- The number that a run of decimal digits writes; the empty run writes zero. -/
def digitsValue (cs : List Char) : Nat := cs.foldl (fun n c => n * 10 + digitValue c) 0

/-- An optional sign and at least one digit, or nothing: the number a text writes out. -/
def parseInt? (cs : List Char) : Option Int :=
  let digits? (ds : List Char) : Option Int :=
    if ds.isEmpty || !ds.all isDigit then none else some (digitsValue ds : Int)
  match cs with
  | '-' :: ds => (digits? ds).map (- ·)
  | '+' :: ds => digits? ds
  | ds => digits? ds

/-- The lower-case form of an ASCII letter; every other character is its own. -/
def lowerAscii (c : Char) : Char := if 'A' ≤ c && c ≤ 'Z' then Char.ofNat (c.toNat + 32) else c

def lower (s : String) : String := String.ofList (s.toList.map lowerAscii)

end AuthzClient.Text
