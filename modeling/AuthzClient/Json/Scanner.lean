import AuthzClient.Decimal.Reader
import AuthzClient.Json.Value
import AuthzClient.Text.Digit
import AuthzClient.Text.Utf8

/-!
The small pieces of a JSON text, read from the front of a byte list: white space, fixed words, texts and numbers, and
whole values that are only passed over. Every reader returns what is left behind the piece, or the first thing wrong
from left to right.
-/

namespace AuthzClient.Json

/-- What can be wrong with a text that is to be read as JSON of some form. -/
inductive Fault
  /-- A byte that no JSON text can have at this place, or nesting beyond the limit. -/
  | malformed
  /-- JSON so far, but not of the form asked for. -/
  | mismatch
  | truncated
  deriving DecidableEq, Repr

/-- The readers of this module. -/
abbrev Scanned (α : Type) := Except Fault (α × List UInt8)

def isSpace (b : UInt8) : Bool := b == 0x20 || b == 0x0a || b == 0x0d || b == 0x09

def isDigitByte (b : UInt8) : Bool := 0x30 ≤ b && b ≤ 0x39

def digit (b : UInt8) : Nat := b.toNat - 0x30

def skipSpace (bs : List UInt8) : List UInt8 := bs.dropWhile isSpace

def expect : List UInt8 → List UInt8 → Except Fault (List UInt8)
  | [], rest => .ok rest
  | _ :: _, [] => .error .truncated
  | e :: es, b :: rest => if e == b then expect es rest else .error .malformed

/-- What is left of `null`, `true` and `false` behind the first letter. -/
def nullTail : List UInt8 := [0x75, 0x6c, 0x6c]
def trueTail : List UInt8 := [0x72, 0x75, 0x65]
def falseTail : List UInt8 := [0x61, 0x6c, 0x73, 0x65]

def hexValue4? (a b c d : UInt8) : Option Nat := do
  let a ← Text.hexValue? a
  let b ← Text.hexValue? b
  let c ← Text.hexValue? c
  let d ← Text.hexValue? d
  return a * 0x1000 + b * 0x100 + c * 0x10 + d

def shortEscape? (b : UInt8) : Option UInt8 :=
  if b == 0x22 || b == 0x5c || b == 0x2f then some b
  else if b == 0x62 then some 8
  else if b == 0x66 then some 12
  else if b == 0x6e then some 10
  else if b == 0x72 then some 13
  else if b == 0x74 then some 9
  else none

/-- Reads a text up to its closing quote; the opening one has been read. `seen` holds its bytes so far, last one first,
escapes resolved. Escapes for the halves of a pair must come in pairs. -/
def textBytes (seen : List UInt8) : List UInt8 → Scanned (List UInt8)
  | [] => .error .truncated
  | b :: rest =>
    if b == 0x22 then .ok (seen.reverse, rest)
    else if b == 0x5c then
      match rest with
      | [] => .error .truncated
      | e :: rest =>
        if e == 0x75 then
          match rest with
          | h1 :: h2 :: h3 :: h4 :: rest =>
            match hexValue4? h1 h2 h3 h4 with
            | none => .error .malformed
            | some n =>
              if 0xdc00 ≤ n && n < 0xe000 then .error .malformed
              else if 0xd800 ≤ n && n < 0xdc00 then
                match rest with
                | [] => .error .truncated
                | s :: rest =>
                  if s != 0x5c then .error .malformed
                  else
                    match rest with
                    | [] => .error .truncated
                    | u :: rest =>
                      if u != 0x75 then .error .malformed
                      else
                        match rest with
                        | l1 :: l2 :: l3 :: l4 :: rest =>
                          match hexValue4? l1 l2 l3 l4 with
                          | none => .error .malformed
                          | some m =>
                            if 0xdc00 ≤ m && m < 0xe000 then
                              let c := Char.ofNat (0x10000 + (n - 0xd800) * 0x400 + (m - 0xdc00))
                              textBytes ((Text.Utf8.encodeChar c).reverse ++ seen) rest
                            else .error .malformed
                        | _ => .error .truncated
              else textBytes ((Text.Utf8.encodeChar (Char.ofNat n)).reverse ++ seen) rest
          | _ => .error .truncated
        else
          match shortEscape? e with
          | some c => textBytes (c :: seen) rest
          | none => .error .malformed
    else if b < 0x20 then .error .malformed
    else textBytes (b :: seen) rest

/-- Reads a text behind its opening quote. Its bytes are judged as UTF-8 once the closing quote is found. -/
def readText (bs : List UInt8) : Scanned String :=
  match textBytes [] bs with
  | .error fault => .error fault
  | .ok (bytes, rest) =>
    match Text.Utf8.decode? bytes with
    | some cs => .ok (String.ofList cs, rest)
    | none => .error .malformed

/-- Takes digits into a number as long as it stays below `2 ^ 64`; `count` goes up by one for each. -/
def takeDigits (n count : Nat) : List UInt8 → Nat × Nat × List UInt8
  | [] => (n, count, [])
  | b :: rest =>
    if isDigitByte b && n * 10 + digit b < 0x1_0000_0000_0000_0000 then takeDigits (n * 10 + digit b) (count + 1) rest
    else (n, count, b :: rest)

def countDigits (count : Nat) : List UInt8 → Nat × List UInt8
  | [] => (count, [])
  | b :: rest => if isDigitByte b then countDigits (count + 1) rest else (count, b :: rest)

def startsWithDigit : List UInt8 → Bool
  | b :: _ => isDigitByte b
  | [] => false

def startsWithExponent : List UInt8 → Bool
  | b :: _ => b == 0x65 || b == 0x45
  | [] => false

/-- A number from its parts. One that is too large is no number. -/
def realOfParts (negative : Bool) (n : Nat) (exponent : Int) (rest : List UInt8) : Scanned Number :=
  match Decimal.ofParts? negative n exponent with
  | some x => .ok (.real x, rest)
  | none => .error .malformed

/-- The largest exponent that is kept as a number. -/
def exponentLimit : Nat := 0x8000_0000

/-- Takes the digits of an exponent; nothing if they write more than the limit. -/
def takeExponent (e : Nat) : List UInt8 → Option Nat × List UInt8
  | [] => (some e, [])
  | b :: rest =>
    if isDigitByte b then
      if e * 10 + digit b < exponentLimit then takeExponent (e * 10 + digit b) rest else (none, rest)
    else (some e, b :: rest)

/-- Reads an exponent behind its letter and finishes the number. -/
def readExponent (negative : Bool) (n : Nat) (start : Int) (bs : List UInt8) : Scanned Number :=
  let (positive, bs) := match bs with
    | b :: rest => if b == 0x2b then (true, rest) else if b == 0x2d then (false, rest) else (true, b :: rest)
    | [] => (true, [])
  match bs with
  | [] => .error .truncated
  | b :: rest =>
    if !isDigitByte b then .error .malformed
    else
      match takeExponent (digit b) rest with
      | (some e, rest) => realOfParts negative n (if positive then start + e else start - e) rest
      | (none, rest) =>
        if n ≠ 0 ∧ positive then .error .malformed
        else .ok (.real ⟨negative, 0⟩, (countDigits 0 rest).2)

/-- Reads a fraction behind its point and finishes the number. Digits beyond 64 bits of significand are passed over. -/
def readFraction (negative : Bool) (n : Nat) (start : Int) (bs : List UInt8) : Scanned Number :=
  let (m, count, rest) := takeDigits n 0 bs
  let exponent := start - count
  if startsWithDigit rest then
    let rest := (countDigits 0 rest).2
    if startsWithExponent rest then readExponent negative m exponent (rest.drop 1)
    else realOfParts negative m exponent rest
  else if count = 0 then (if rest.isEmpty then .error .truncated else .error .malformed)
  else if startsWithExponent rest then readExponent negative m exponent (rest.drop 1)
  else realOfParts negative m exponent rest

def finishNumber (negative : Bool) (n : Nat) (rest : List UInt8) : Scanned Number :=
  match rest with
  | b :: more =>
    if b == 0x2e then readFraction negative n 0 more
    else if b == 0x65 || b == 0x45 then readExponent negative n 0 more
    else .ok (whole, rest)
  | [] => .ok (whole, rest)
where
  /-- The number without fraction and exponent. -/
  whole : Number :=
    if !negative then .whole n
    else if n = 0 ∨ n > 0x8000_0000_0000_0000 then .real ⟨true, Decimal.Binary64.magnitudeOf n 1⟩
    else .whole (-(n : Int))

def readNumber (negative : Bool) : List UInt8 → Scanned Number
  | [] => .error .truncated
  | b :: rest =>
    if b == 0x30 then (if startsWithDigit rest then .error .malformed else finishNumber negative 0 rest)
    else if isDigitByte b then
      let (n, _, rest) := takeDigits (digit b) 1 rest
      if startsWithDigit rest then
        let (extra, rest) := countDigits 0 rest
        match rest with
        | c :: more =>
          if c == 0x2e then readFraction negative n extra more
          else if c == 0x65 || c == 0x45 then readExponent negative n extra more
          else realOfParts negative n extra rest
        | [] => realOfParts negative n extra rest
      else finishNumber negative n rest
    else .error .malformed

/-- Passes over a text behind its opening quote. The halves of a pair need not be paired here. -/
def skipText : List UInt8 → Except Fault (List UInt8)
  | [] => .error .truncated
  | b :: rest =>
    if b == 0x22 then .ok rest
    else if b == 0x5c then
      match rest with
      | [] => .error .truncated
      | e :: rest =>
        if e == 0x75 then
          match rest with
          | h1 :: h2 :: h3 :: h4 :: rest =>
            if (hexValue4? h1 h2 h3 h4).isSome then skipText rest else .error .malformed
          | _ => .error .truncated
        else if (shortEscape? e).isSome then skipText rest
        else .error .malformed
    else if b < 0x20 then .error .malformed
    else skipText rest

/-- Passes over a number behind its sign. A number that breaks off is malformed here, even at the end of the text. -/
def skipNumber : List UInt8 → Except Fault (List UInt8)
  | [] => .error .malformed
  | b :: rest =>
    if b == 0x30 then (if startsWithDigit rest then .error .malformed else tail rest)
    else if isDigitByte b then tail (countDigits 0 rest).2
    else .error .malformed
where
  tail (bs : List UInt8) : Except Fault (List UInt8) :=
    match bs with
    | b :: rest =>
      if b == 0x2e then
        if startsWithDigit rest then
          let rest := (countDigits 0 rest).2
          if startsWithExponent rest then exponent (rest.drop 1) else .ok rest
        else .error .malformed
      else if b == 0x65 || b == 0x45 then exponent rest
      else .ok bs
    | [] => .ok []
  /-- Passes over the digits of an exponent and their sign. -/
  exponent (bs : List UInt8) : Except Fault (List UInt8) :=
    let bs := match bs with
      | b :: rest => if b == 0x2b || b == 0x2d then rest else b :: rest
      | [] => []
    if startsWithDigit bs then .ok (countDigits 0 bs).2 else .error .malformed

/-- Passes over the name of a member and the colon behind it. -/
def skipName (bs : List UInt8) : Except Fault (List UInt8) :=
  match skipSpace bs with
  | [] => .error .truncated
  | b :: rest =>
    if b != 0x22 then .error .malformed
    else
      match skipText rest with
      | .error fault => .error fault
      | .ok rest =>
        match skipSpace rest with
        | [] => .error .truncated
        | c :: rest => if c == 0x3a then .ok rest else .error .malformed

/-- Passes over one value, however deep it is nested. `within` lists the open arrays (`false`) and objects (`true`),
innermost first; `after` says that an item of the innermost one has just ended. -/
def skipValue : Nat → List Bool → Bool → List UInt8 → Except Fault (List UInt8)
  | 0, _, _, _ => .error .truncated
  | _ + 1, [], true, bs => .ok bs
  | fuel + 1, inObject :: within, true, bs =>
    match skipSpace bs with
    | [] => .error .truncated
    | b :: rest =>
      if b == (if inObject then 0x7d else 0x5d) then skipValue fuel within true rest
      else if b != 0x2c then .error .malformed
      else if inObject then
        match skipName rest with
        | .error fault => .error fault
        | .ok rest => skipValue fuel (true :: within) false rest
      else skipValue fuel (false :: within) false rest
  | fuel + 1, within, false, bs =>
    match skipSpace bs with
    | [] => .error .truncated
    | b :: rest =>
      if b == 0x6e then
        match expect nullTail rest with
        | .error fault => .error fault
        | .ok rest => skipValue fuel within true rest
      else if b == 0x74 then
        match expect trueTail rest with
        | .error fault => .error fault
        | .ok rest => skipValue fuel within true rest
      else if b == 0x66 then
        match expect falseTail rest with
        | .error fault => .error fault
        | .ok rest => skipValue fuel within true rest
      else if b == 0x2d then
        match skipNumber rest with
        | .error fault => .error fault
        | .ok rest => skipValue fuel within true rest
      else if isDigitByte b then
        match skipNumber (b :: rest) with
        | .error fault => .error fault
        | .ok rest => skipValue fuel within true rest
      else if b == 0x22 then
        match skipText rest with
        | .error fault => .error fault
        | .ok rest => skipValue fuel within true rest
      else if b == 0x5b then
        match skipSpace rest with
        | [] => .error .truncated
        | c :: more =>
          if c == 0x5d then skipValue fuel within true more else skipValue fuel (false :: within) false (c :: more)
      else if b == 0x7b then
        match skipSpace rest with
        | [] => .error .truncated
        | c :: more =>
          if c == 0x7d then skipValue fuel within true more
          else
            match skipName (c :: more) with
            | .error fault => .error fault
            | .ok rest => skipValue fuel (true :: within) false rest
      else .error .malformed

end AuthzClient.Json
