import AuthzClient.Text.Digit
import AuthzClient.Text.Percent
import AuthzClient.Url.Basic
import AuthzClient.Url.Domain

/-!
Reading hosts. In schemes of the web a host is an address in brackets, or a name that is percent-decoded and brought
into its ASCII form; a name whose last label is a number is an address of 32 bits. In other schemes a host that is not
in brackets is any text without separators.
-/

namespace AuthzClient.Url

open Text

/-- A number of an address: in base sixteen behind `0x`, in base eight behind `0`, in base ten otherwise. -/
def addressNumber? : List Char → Option Nat
  | [] => none
  | '0' :: 'x' :: rest => inBase? 16 rest
  | '0' :: 'X' :: rest => inBase? 16 rest
  | '0' :: c :: rest => inBase? 8 (c :: rest)
  | cs => inBase? 10 cs

/-- The labels of a name without the empty one behind a final point. -/
def labels (name : List Char) : List (List Char) :=
  let parts := splitChars '.' name
  if parts.length > 1 ∧ parts.getLast? = some [] then parts.dropLast else parts

/-- Whether the last label of a name is a number, so that the name can only be an address. -/
def endsInNumber (name : List Char) : Bool :=
  match (labels name).getLast? with
  | some label => !label.isEmpty && (label.all isDigit || (addressNumber? label).isSome)
  | none => false

/-- The address that numbers write: one byte for each but the last, which fills all that is left. -/
def ofNumbers? : List Nat → Option Nat
  | numbers =>
    match numbers.getLast? with
    | none => none
    | some last =>
      let firsts := numbers.dropLast
      if firsts.length > 3 ∨ last ≥ Nat.pow 256 (4 - firsts.length) ∨ firsts.any (· > 255) then none
      else some ((firsts.foldl (fun address n => address * 256 + n) 0) * Nat.pow 256 (4 - firsts.length) + last)

/-- The address of 32 bits that a name writes. -/
def ipv4? (name : List Char) : Option Nat := ((labels name).mapM addressNumber?).bind ofNumbers?

/-- A byte of an address in base ten, without zeros in front. -/
def octet? (cs : List Char) : Option Nat :=
  match cs with
  | ['0'] => some 0
  | c :: _ =>
    if c == '0' || cs.length > 3 || !cs.all isDigit then none
    else (some (digitsValue cs)).filter (· ≤ 255)
  | [] => none

/-- The two pieces that four bytes with points between them write. -/
def octetPieces? (cs : List Char) : Option (List Nat) :=
  match (splitChars '.' cs).mapM octet? with
  | some [a, b, c, d] => some [a * 256 + b, c * 256 + d]
  | _ => none

def piece? (cs : List Char) : Option Nat := if cs.isEmpty || cs.length > 4 then none else inBase? 16 cs

/-- The pieces that texts write; the last one may be four bytes with points. -/
def pieces? (last : Bool) : List (List Char) → Option (List Nat)
  | [] => some []
  | [part] =>
    match piece? part with
    | some piece => some [piece]
    | none => if last then octetPieces? part else none
  | part :: parts =>
    match piece? part, pieces? last parts with
    | some piece, some pieces => some (piece :: pieces)
    | _, _ => none

/-- The pieces between colons; the empty text has none. -/
def side? (last : Bool) (cs : List Char) : Option (List Nat) :=
  if cs.isEmpty then some [] else pieces? last (splitChars ':' cs)

/-- What stands before and behind the first two colons in a row. -/
def splitGap : List Char → Option (List Char × List Char)
  | [] => none
  | ':' :: ':' :: rest => some ([], rest)
  | c :: rest => (splitGap rest).map fun (before, behind) => (c :: before, behind)

/-- The address of eight pieces that a text writes; two colons in a row stand for one zero piece or more. -/
def ipv6? (cs : List Char) : Option (List Nat) :=
  match splitGap cs with
  | none => (side? true cs).filter (·.length = 8)
  | some (before, behind) =>
    match side? false before, side? true behind with
    | some front, some back =>
      if front.length + back.length ≤ 7 then
        some (front ++ List.replicate (8 - front.length - back.length) 0 ++ back)
      else none
    | _, _ => none

def bracketed? (cs : List Char) : Option Host :=
  if cs.getLast? = some ']' then (ipv6? cs.dropLast).map .ipv6 else none

/-- The host that a name in a scheme of the web is. -/
def namedHost? (cs : List Char) : Option Host := do
  let decoded ← Utf8.decode? (Percent.decode (Utf8.encodeChars cs))
  let name ← Domain.toAscii? decoded
  if name.isEmpty then none
  else if endsInNumber name then (ipv4? name).map .ipv4
  else some (.domain (String.ofList name))

def webHost? : List Char → Option Host
  | '[' :: rest => bracketed? rest
  | cs => namedHost? cs

def isForbidden (c : Char) : Bool := "\x00\t\n\r #/:<>?@[\\]^|".toList.contains c

/-- A byte that stands for itself in the host of another scheme. -/
def isHostByte (b : UInt8) : Bool := 0x20 ≤ b && b < 0x7f

def otherHost? : List Char → Option Host
  | '[' :: rest => bracketed? rest
  | cs => if cs.any isForbidden then none else some (.domain (String.ofList (Percent.encodeChars isHostByte cs)))

end AuthzClient.Url
