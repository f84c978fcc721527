/-!
Labels in ASCII letters, digits and hyphens: the ASCII characters of a label come first, and behind the last hyphen
stands where which other characters are put in, as a sequence of numbers. Digits are the letters and the ten digits; how
many of them a number has follows from the numbers before it.
-/

namespace AuthzClient.Url.Punycode

def digit (n : Nat) : Char := if n < 26 then Char.ofNat (97 + n) else Char.ofNat (22 + n)

def digitValue? (c : Char) : Option Nat :=
  if 'a' ≤ c && c ≤ 'z' then some (c.toNat - 97)
  else if 'A' ≤ c && c ≤ 'Z' then some (c.toNat - 65)
  else if '0' ≤ c && c ≤ '9' then some (c.toNat - 22)
  else none

/-- The least number that a digit at a place, counted in steps of thirty-six, has if another digit follows. -/
def threshold (place bias : Nat) : Nat := max 1 (min 26 (place - bias))

/-- Where the bias goes for a number that has become small. -/
def settleBias : (fuel : Nat) → (base delta : Nat) → Nat
  | 0, base, _ => base
  | fuel + 1, base, delta => if delta > 455 then settleBias fuel (base + 36) (delta / 35) else base + 36 * delta / (delta + 38)

/-- The bias behind a number; `count` is how many characters there are then. -/
def adapt (delta count : Nat) (first : Bool) : Nat :=
  let scaled := if first then delta / 700 else delta / 2
  settleBias 64 0 (scaled + scaled / count)

/-- The digits of a number from a place on; as many steps as the number says are more than it takes. -/
def digits : (fuel : Nat) → (n place bias : Nat) → List Char
  | 0, n, _, _ => [digit n]
  | fuel + 1, n, place, bias =>
    let t := threshold place bias
    if n < t then [digit n] else digit (t + (n - t) % (36 - t)) :: digits fuel ((n - t) / (36 - t)) (place + 36) bias

structure Writer where
  delta : Nat
  bias : Nat
  count : Nat
  first : Bool
  /-- The digits so far, in order. -/
  written : List Char

/-- Passes a character while those with number `level` are put in. -/
def Writer.pass (level : Nat) (writer : Writer) (c : Char) : Writer :=
  if c.toNat < level then { writer with delta := writer.delta + 1 }
  else if c.toNat = level then
    ⟨0, adapt writer.delta (writer.count + 1) writer.first, writer.count + 1, false,
      writer.written ++ digits writer.delta writer.delta 36 writer.bias⟩
  else writer

/-- Puts in the characters of one number after the other; `level` is the least number that is not done. -/
def writeLevels (label : List Char) (level : Nat) (writer : Writer) : List Nat → List Char
  | [] => writer.written
  | next :: rest =>
    let start := { writer with delta := writer.delta + (next - level) * (writer.count + 1) }
    let passed := label.foldl (Writer.pass next) start
    writeLevels label (next + 1) { passed with delta := passed.delta + 1 } rest

def encode (label : List Char) : List Char :=
  let plain := label.filter (·.toNat < 0x80)
  let levels := (((label.filter (0x80 ≤ ·.toNat)).map Char.toNat).mergeSort).eraseDups
  let start := if plain.isEmpty then [] else plain ++ ['-']
  writeLevels label 0x80 ⟨0, 72, plain.length, true, start⟩ levels

structure Reader where
  label : List Char
  /-- The number of the character that was put in last. -/
  level : Nat
  /-- Where the next one goes if its number is zero. -/
  index : Nat
  bias : Nat
  first : Bool

/-- With one more character, a number away from the last one. -/
def Reader.insert? (number : Nat) (reader : Reader) : Option Reader :=
  let count := reader.label.length + 1
  let index := reader.index + number
  let level := reader.level + index / count
  if level < 0xd800 ∨ (0xe000 ≤ level ∧ level < 0x110000) then
    some ⟨reader.label.take (index % count) ++ Char.ofNat level :: reader.label.drop (index % count), level,
      index % count + 1, adapt number count reader.first, false⟩
  else none

/-- Reads numbers. `number` is what the digits of the current one write so far, `weight` what the next digit counts. -/
def readNumbers (reader : Reader) (number weight place : Nat) : List Char → Option (List Char)
  | [] => if place = 36 then some reader.label else none
  | c :: rest =>
    match digitValue? c with
    | none => none
    | some d =>
      let t := threshold place reader.bias
      let number := number + d * weight
      if d < t then
        match reader.insert? number with
        | some reader => readNumbers reader 0 1 36 rest
        | none => none
      else readNumbers reader number (weight * (36 - t)) (place + 36) rest

/-- The label that an ASCII form stands for, if it stands for one. A hyphen ends the ASCII characters only if there are
any. -/
def decode? (written : List Char) : Option (List Char) :=
  let behind := (written.reverse.takeWhile (· != '-')).reverse
  let plain := written.take (written.length - behind.length - 1)
  readNumbers ⟨plain, 0x80, 0, 72, true⟩ 0 1 36 (if plain.isEmpty then written else behind)

end AuthzClient.Url.Punycode
