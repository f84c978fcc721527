import AuthzClient.Text.Percent

/-!
Forms: pairs of names and values with `=` between name and value and `&` between pairs. A space is written as `+`;
letters, digits and `*`, `-`, `.`, `_` stay; all else is percent-encoded. Reading a form splits first and decodes then,
so nothing in a name or a value can be taken for one of the separators.
-/

namespace AuthzClient.Form

open Text

def isPlain (b : UInt8) : Bool :=
  Percent.isAlphanumeric b || b == 0x2a || b == 0x2d || b == 0x2e || b == 0x5f

def encodeByte (b : UInt8) : List Char :=
  if b == 0x20 then ['+'] else if isPlain b then [Char.ofNat b.toNat] else Percent.escape b

def encodeText (s : String) : List Char := (Utf8.encode s).flatMap encodeByte

def encodePair (pair : String × String) : List Char := encodeText pair.1 ++ '=' :: encodeText pair.2

def encode (pairs : List (String × String)) : List Char :=
  [ '&' ].intercalate (pairs.map encodePair)

/-- The parts of a byte list between separators; the empty list has one empty part. -/
def splitAll (separator : UInt8) : List UInt8 → List (List UInt8)
  | [] => [[]]
  | b :: rest =>
    match splitAll separator rest with
    | [] => [[b]]
    | part :: parts => if b == separator then [] :: part :: parts else (b :: part) :: parts

/-- The text that the written form of a name or a value stands for. -/
def decodeText (bs : List UInt8) : String :=
  String.ofList (Utf8.decodeLossy (Percent.decode (bs.map fun b => if b == 0x2b then 0x20 else b)))

/-- The pair that a part between separators stands for; a part without `=` is a name with an empty value. -/
def decodePair (bs : List UInt8) : String × String :=
  (decodeText (bs.takeWhile (· != 0x3d)), decodeText ((bs.dropWhile (· != 0x3d)).drop 1))

/-- The pairs that a form writes; empty parts count for nothing. -/
def decode (bs : List UInt8) : List (String × String) :=
  ((splitAll 0x26 bs).filter (!·.isEmpty)).map decodePair

end AuthzClient.Form
