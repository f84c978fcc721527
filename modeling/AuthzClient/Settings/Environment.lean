import AuthzClient.Decimal.Reader
import AuthzClient.Settings.Source
import AuthzClient.Text.Digit
import AuthzClient.Text.Start
import AuthzClient.Text.Utf8

/-!
Settings from environment variables. The name of a variable, behind its beginning and without regard to case, is the
path of a setting, two underscores standing between the names of the path. Its value is a number, a truth value, a
quoted text, a list or a group if it has that form from end to end, and plain text otherwise.
-/

namespace AuthzClient.Settings.Environment

open Text

def nameStart : List Char := "fga_".toList

def isSpace (c : Char) : Bool := c == ' ' || c == '\t' || c == '\n' || c == '\r' || c == '\x0c'

def skipSpace (cs : List Char) : List Char := cs.dropWhile isSpace

def isPlain (c : Char) : Bool := !(c == ',' || c == '\x7b' || c == '\x7d' || c == '[' || c == ']')

def isNameChar (c : Char) : Bool := c.isAlphanum || c == '_' || c == '-'

/-- The character behind a backslash that a short escape stands for. -/
def shortEscape? (c : Char) : Option Char :=
  match c with
  | 'b' => some '\x08'
  | 'f' => some '\x0c'
  | 'n' => some '\n'
  | 'r' => some '\r'
  | 't' => some '\t'
  | '"' => some '"'
  | '\\' => some '\\'
  | _ => none

/-- A control character; of those only the tab may stand in a quoted text. -/
def isControl (c : Char) : Bool := (c.toNat < 0x20 && c != '\t') || c.toNat == 0x7f

/-- Reads a quoted text behind its opening quote. `seen` holds its characters so far, last one first. -/
def readQuoted (seen : List Char) : List Char → Option (String × List Char)
  | [] => none
  | '"' :: rest => some (String.ofList seen.reverse, rest)
  | '\\' :: 'u' :: a :: b :: c :: d :: rest => (charOf? [a, b, c, d]).bind fun found => readQuoted (found :: seen) rest
  | '\\' :: 'U' :: a :: b :: c :: d :: e :: f :: g :: h :: rest =>
    (charOf? [a, b, c, d, e, f, g, h]).bind fun found => readQuoted (found :: seen) rest
  | '\\' :: c :: rest => (shortEscape? c).bind fun found => readQuoted (found :: seen) rest
  | c :: rest => if isControl c then none else readQuoted (c :: seen) rest

/-- A whole number of 64 bits, with or without a sign. -/
def whole? (cs : List Char) : Option Int :=
  (parseInt? cs).filter fun n =>
    if cs.head? = some '-' then -(0x8000_0000_0000_0000 : Int) ≤ n else n < (0x1_0000_0000_0000_0000 : Int)

def plainValue (cs : List Char) : Json :=
  let decimal? := if cs.contains '.' then Decimal.parse? cs else none
  match decimal?, whole? cs with
  | some x, _ => .number (.real x)
  | none, some n => .number (.whole n)
  | none, none => .text (String.ofList cs)

def readName (cs : List Char) : Option (String × List Char) :=
  match cs with
  | '"' :: rest => readQuoted [] rest
  | cs =>
    let name := cs.takeWhile isNameChar
    if name.isEmpty then none else some (String.ofList name, cs.dropWhile isNameChar)

mutual

def readValue : Nat → List Char → Option (Json × List Char)
  | 0, _ => none
  | fuel + 1, cs =>
    let cs := skipSpace cs
    let found := match stripStart? "true".toList cs, stripStart? "false".toList cs with
      | some rest, _ => some (Json.bool true, rest)
      | none, some rest => some (Json.bool false, rest)
      | none, none =>
        match cs with
        | '\x7b' :: rest => readMembers fuel [] rest
        | '[' :: rest => readItems fuel [] rest
        | '"' :: rest => (readQuoted [] rest).map fun (s, rest) => (.text s, rest)
        | '\'' :: c :: '\'' :: rest => some (.text (String.singleton c), rest)
        | '\'' :: _ => none
        | cs => some (plainValue (trimChars (cs.takeWhile isPlain)), cs.dropWhile isPlain)
    found.map fun (value, rest) => (value, skipSpace rest)

/-- Reads the items of a list up to its closing bracket. A comma may stand behind the last one. -/
def readItems : Nat → List Json → List Char → Option (Json × List Char)
  | 0, _, _ => none
  | fuel + 1, seen, cs =>
    match cs with
    | ']' :: rest => some (.array seen.reverse, rest)
    | cs =>
      match readValue fuel cs with
      | some (value, ',' :: rest) => readItems fuel (value :: seen) rest
      | some (value, ']' :: rest) => some (.array (value :: seen).reverse, rest)
      | _ => none

/-- Reads the members of a group up to its closing brace. A comma may stand behind the last one. -/
def readMembers : Nat → Entries Json → List Char → Option (Json × List Char)
  | 0, _, _ => none
  | fuel + 1, seen, cs =>
    match cs with
    | '\x7d' :: rest => some (.object seen, rest)
    | cs =>
      match readName (skipSpace cs) with
      | none => none
      | some (name, rest) =>
        match skipSpace rest with
        | '=' :: rest =>
          match readValue fuel rest with
          | some (value, ',' :: rest) => readMembers fuel (Entries.put name value seen) rest
          | some (value, '\x7d' :: rest) => some (.object (Entries.put name value seen), rest)
          | _ => none
        | _ => none

end

def valueOf (s : String) : Json :=
  match readValue (2 * s.length + 2) s.toList with
  | some (value, []) => value
  | _ => .text s

/-- The parts of a name between points and pairs of underscores. `part` is the one that has begun, last character
first. -/
def pathOf (part : List Char) : List Char → List (List Char)
  | [] => [part.reverse]
  | '_' :: '_' :: rest => part.reverse :: pathOf [] rest
  | '.' :: rest => part.reverse :: pathOf [] rest
  | c :: rest => pathOf (c :: part) rest

/-- The path of the setting that a variable is for; a path with an empty name in it is none. -/
def path? (name : String) : Option (List String) :=
  (stripStart? nameStart (name.toList.map lowerAscii)).bind fun rest =>
    let path := pathOf [] rest
    if path.any (·.isEmpty) then none else some (path.map String.ofList)

/-- The settings of variables, a later one laid over the earlier ones. -/
def settings (pairs : List (String × String)) : Json :=
  pairs.foldl (fun found (name, value) =>
    match path? name with
    | some path => overlay found (nest path (valueOf value))
    | none => found) (.object [])

end AuthzClient.Settings.Environment
