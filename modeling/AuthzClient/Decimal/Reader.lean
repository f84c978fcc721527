import AuthzClient.Decimal.Binary64
import AuthzClient.Text.Blank

/-!
Reading decimal texts as floating-point numbers, rounded correctly, and the two-step reading of a significand with an
exponent that number fields of JSON texts use.
-/

namespace AuthzClient.Decimal

open Text

/-- `n * 10 ^ exponent`, rounded once. Exponents beyond every finite number are settled without computing powers. -/
def ofScientific (negative : Bool) (n : Nat) (exponent : Int) : Binary64 :=
  let width : Int := (Nat.toDigits 10 n).length
  if n = 0 then ⟨negative, 0⟩
  else if width + exponent > 320 then ⟨negative, Binary64.infinity⟩
  else if width + exponent < -350 then ⟨negative, 0⟩
  else
    match exponent with
    | .ofNat e => Binary64.ofRatio negative (n * Nat.pow 10 e) 1
    | .negSucc e => Binary64.ofRatio negative n (Nat.pow 10 (e + 1))

/-- An optional sign and a non-empty run of digits, nothing behind it. -/
def exponent? (cs : List Char) : Option Int := parseInt? cs

/-- Digits with an optional fraction and an optional exponent; at least one digit stands before the exponent. -/
def parseUnsigned? (negative : Bool) (cs : List Char) : Option Binary64 :=
  let whole := cs.takeWhile isDigit
  let rest := cs.dropWhile isDigit
  let (fraction, rest) := match rest with
    | '.' :: more => (more.takeWhile isDigit, more.dropWhile isDigit)
    | more => ([], more)
  if whole.isEmpty && fraction.isEmpty then none
  else
    let n := digitsValue (whole ++ fraction)
    let shift : Int := -(fraction.length : Int)
    match rest with
    | [] => some (ofScientific negative n shift)
    | c :: more =>
      if c == 'e' || c == 'E' then (exponent? more).map fun e => ofScientific negative n (shift + e) else none

/-- A decimal number, or one of the words for infinity and for no number, in any case, with an optional sign. -/
def parse? (cs : List Char) : Option Binary64 :=
  let (negative, body) := match cs with
    | '-' :: more => (true, more)
    | '+' :: more => (false, more)
    | more => (false, more)
  let word := String.ofList (body.map lowerAscii)
  if word == "inf" || word == "infinity" then some ⟨negative, Binary64.infinity⟩
  else if word == "nan" then some ⟨negative, Binary64.notANumber⟩
  else parseUnsigned? negative body

/-- `10 ^ k` rounded to a magnitude; the powers from 0 to 308 are finite. -/
def tenTo (k : Nat) : Nat := Binary64.magnitudeOf (Nat.pow 10 k) 1

/-- A significand divided by a power of ten, in steps of at most `10 ^ 308`; each step rounds. -/
def scaleDown : Nat → Nat → Nat → Nat
  | 0, magnitude, _ => magnitude
  | steps + 1, magnitude, k =>
    if k ≤ 308 then Binary64.divMagnitude magnitude (tenTo k)
    else if magnitude = 0 then 0
    else scaleDown steps (Binary64.divMagnitude magnitude (tenTo 308)) (k - 308)

/-- A significand of at most 64 bits times a power of ten, with a rounding after the significand and after each
scaling step. Nothing if the number is too large. -/
def ofParts? (negative : Bool) (n : Nat) (exponent : Int) : Option Binary64 :=
  let magnitude := Binary64.magnitudeOf n 1
  match exponent with
  | .ofNat e =>
    if e ≤ 308 then
      let product := Binary64.mulMagnitude magnitude (tenTo e)
      if product < Binary64.infinity then some ⟨negative, product⟩ else none
    else if magnitude = 0 then some ⟨negative, 0⟩
    else none
  | .negSucc e => some ⟨negative, scaleDown 5 magnitude (e + 1)⟩

end AuthzClient.Decimal
