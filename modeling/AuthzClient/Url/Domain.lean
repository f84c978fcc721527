import AuthzClient.Unicode.Composition
import AuthzClient.Unicode.Direction
import AuthzClient.Unicode.Joining
import AuthzClient.Unicode.Mark
import AuthzClient.Unicode.Preparation
import AuthzClient.Url.Punycode

/-!
Names of hosts in their ASCII form. A name is prepared and composed, and every label that is not ASCII is written in
ASCII characters behind a mark. A label that has the mark already is read first. Labels of both kinds have to be sound.
-/

namespace AuthzClient.Url

/-- The parts of a text between separators; the empty text has one empty part. -/
def splitChars (separator : Char) : List Char → List (List Char)
  | [] => [[]]
  | c :: rest =>
    match splitChars separator rest with
    | [] => [[c]]
    | part :: parts => if c == separator then [] :: part :: parts else (c :: part) :: parts

namespace Domain

open Text Unicode

def isForbidden (c : Char) : Bool := c.toNat ≤ 0x20 || c.toNat = 0x7f || "%#/:<>?@[\\]^|".toList.contains c

def isAscii (c : Char) : Bool := c.toNat < 0x80

/-- What stands in front of a label that is written in ASCII characters. -/
def mark : List Char := ['x', 'n', '-', '-']

/-- A prepared text; nothing if one of its characters is refused. -/
def prepareAll? (cs : List Char) : Option (List Char) := (cs.mapM prepare?).map List.flatten

/-- A character that is kept as it is. -/
def isKept (c : Char) : Bool := prepare? c == some [c]

/-- Whether a label is one: it is prepared and composed, it does not begin with a mark, and what joins or keeps apart stands
where it makes a difference. -/
def isSound (label : List Char) : Bool :=
  label.all isKept && compose label == label &&
    (match label with
      | c :: _ => !isMark c
      | [] => true) && joinsSoundly [] label

/-- What is written behind a mark; what is there has to need the mark. -/
def readMarked? (written : List Char) : Option (List Char) :=
  if written.all isAscii then (Punycode.decode? written).filter fun label => !label.all isAscii else none

def readLabel? (label : List Char) : Option (List Char) :=
  (if label.take 4 == mark then readMarked? (label.drop 4) else some label).filter isSound

/-- The ASCII form of a label. -/
def writeLabel (label : List Char) : List Char := if label.all isAscii then label else mark ++ Punycode.encode label

/-- Whether the labels of a name have one order to be read in; only a name with characters from right to left can fail
this. -/
def isOrderly (labels : List (List Char)) : Bool := !(labels.any (·.any isRightward)) || labels.all isOrdered

def convert? (name : List Char) : Option (List Char) := do
  let prepared ← prepareAll? name
  let labels ← (splitChars '.' (compose prepared)).mapM readLabel?
  let ascii := ['.'].intercalate (labels.map writeLabel)
  if ascii.any isForbidden || !isOrderly labels then none else return ascii

/-- Whether a name in lower case is of ASCII characters without any label that has the mark. -/
def isPlain (name : List Char) : Bool := name.all isAscii && (splitChars '.' name).all fun label => label.take 4 != mark

/-- The ASCII form of a name; one of ASCII characters alone is its own in lower case. -/
def toAscii? (name : List Char) : Option (List Char) :=
  let lowered := name.map lowerAscii
  if isPlain lowered then (if lowered.any isForbidden then none else some lowered) else convert? name

end Domain

end AuthzClient.Url
