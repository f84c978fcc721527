import AuthzClient.Decimal.Reader
import AuthzClient.Failure.ClientError
import AuthzClient.Text.Digit

/-!
Documents as trees: texts, lists and groups. A text that was written without quotes can stand for a number, a truth
value or nothing at all; a tag of the core vocabulary says what it stands for.
-/

namespace AuthzClient.Settings.Yaml

open Text

inductive Node
  /-- A text. A `plain` one was written without quotes. -/
  | scalar (text : List Char) (plain : Bool) (tag : Option String)
  | list (items : List Node) (tag : Option String)
  | group (pairs : List (Node × Node)) (tag : Option String)
  deriving Repr, Inhabited

namespace Node

def nothing : Node := scalar [] true none

/-- With a tag, unless it has one. -/
def withTag (tag : Option String) : Node → Node
  | scalar text plain own => scalar text plain (own <|> tag)
  | list items own => list items (own <|> tag)
  | group pairs own => group pairs (own <|> tag)

end Node

namespace Scalar

/-- What the tags of the core vocabulary begin with. -/
def coreTag (name : String) : String := "tag:yaml.org,2002:" ++ name

/-- The words for nothing. -/
def isNull (text : String) : Bool := text == "null" || text == "Null" || text == "NULL" || text == "~"

def bool? (text : String) : Option Bool :=
  if text == "true" || text == "True" || text == "TRUE" then some true
  else if text == "false" || text == "False" || text == "FALSE" then some false
  else none

/-- The number that at least one digit writes in a base. -/
def natIn? (base : Nat) (cs : List Char) : Option Nat := if cs.isEmpty then none else inBase? base cs

def isPadded : List Char → Bool
  | '0' :: c :: cs => (c :: cs).all isDigit
  | _ => false

/-- The number behind the sign: in base ten without a zero in front, or in another base behind its mark. -/
def unsigned? : List Char → Option Nat
  | '0' :: 'x' :: cs => natIn? 16 cs
  | '0' :: 'o' :: cs => natIn? 8 cs
  | '0' :: 'b' :: cs => natIn? 2 cs
  | cs => if isPadded cs then none else natIn? 10 cs

/-- The whole number of at most 128 bits that a text writes. -/
def whole? (cs : List Char) : Option Int :=
  match cs with
  | '-' :: ds => ((unsigned? ds).filter (· ≤ 0x8000_0000_0000_0000_0000_0000_0000_0000)).map fun n => -(n : Int)
  | '+' :: ds => ((unsigned? ds).filter (· < 0x1_0000_0000_0000_0000_0000_0000_0000_0000)).map fun n => (n : Int)
  | ds => ((unsigned? ds).filter (· < 0x1_0000_0000_0000_0000_0000_0000_0000_0000)).map fun n => (n : Int)

/-- The word behind a point that stands for infinity. -/
def isInfinity (cs : List Char) : Bool := cs == ".inf".toList || cs == ".Inf".toList || cs == ".INF".toList

/-- The word behind a point that stands for no number. -/
def isNoNumber (cs : List Char) : Bool := cs == ".nan".toList || cs == ".NaN".toList || cs == ".NAN".toList

/-- The floating-point number that a text without a plus sign writes. -/
def signedReal? (cs : List Char) : Option Decimal.Binary64 :=
  if isInfinity cs then some ⟨false, Decimal.Binary64.infinity⟩
  else if cs.head? = some '-' && isInfinity (cs.drop 1) then some ⟨true, Decimal.Binary64.infinity⟩
  else (Decimal.parse? cs).filter (·.isFinite)

/-- The floating-point number that a text writes, or one of the words for infinity and for no number. -/
def real? (cs : List Char) : Option Decimal.Binary64 :=
  match cs with
  | '+' :: '+' :: _ | '+' :: '-' :: _ => none
  | '+' :: body => signedReal? body
  | body => if isNoNumber body then some ⟨false, Decimal.Binary64.notANumber⟩ else signedReal? body

/-- A sign followed by several digits of which the first is a zero, or such digits alone. -/
def isPaddedNumber : List Char → Bool
  | '-' :: cs | '+' :: cs => isPadded cs
  | cs => isPadded cs

/-- What a text without quotes stands for. -/
def resolve (cs : List Char) : Json :=
  let text := String.ofList cs
  if cs.isEmpty || isNull text then .null
  else
    match bool? text, whole? cs with
    | some b, _ => .bool b
    | none, some n => .number (.whole n)
    | none, none =>
      match if isPaddedNumber cs then none else real? cs with
      | some x => .number (.real x)
      | none => .text text

/-- What a text with a tag stands for; nothing if the tag does not fit or is not known. -/
def tagged? (tag : String) (cs : List Char) : Option Json :=
  let text := String.ofList cs
  if tag = coreTag "bool" then (bool? text).map .bool
  else if tag = coreTag "int" then (whole? cs).map fun n => .number (.whole n)
  else if tag = coreTag "float" then (real? cs).map fun x => .number (.real x)
  else if tag = coreTag "null" then if isNull text then some .null else none
  else if tag.toList.head? = some '!' then none
  else some (.text text)

end Scalar

namespace Node

def scalarValue? (text : List Char) (plain : Bool) : Option String → Option Json
  | some tag => Scalar.tagged? tag text
  | none => if plain then some (Scalar.resolve text) else some (.text (String.ofList text))

/-- Whether a tag is one of the user's own, which settings do not have. -/
def isForeign (tag : Option String) : Bool :=
  match tag with
  | some tag => tag.toList.head? = some '!'
  | none => false

mutual

/-- The value of a part; nothing if it is nested too deep, or has a tag or a name that values do not have. -/
def value? : (room : Nat) → Node → Option Json
  | _, .scalar text plain tag => scalarValue? text plain tag
  | 0, _ => none
  | room + 1, .list items tag => if isForeign tag then none else (itemValues? room items).map .array
  | room + 1, .group pairs tag => if isForeign tag then none else (memberValues? room [] pairs).map .object

def itemValues? : (room : Nat) → List Node → Option (List Json)
  | _, [] => some []
  | room, item :: rest => do return (← value? room item) :: (← itemValues? room rest)

/-- The values of pairs by name. A name is taken as it is written, and a later pair replaces an earlier one. -/
def memberValues? : (room : Nat) → Entries Json → List (Node × Node) → Option (Entries Json)
  | _, found, [] => some found
  | room, found, (.scalar name _ _, value) :: rest => do
    memberValues? room (Entries.put (String.ofList name) (← value? room value) found) rest
  | _, _, _ => none

end

def depthLimit : Nat := 128

def hasTextNames (pairs : List (Node × Node)) : Bool := pairs.all fun
  | (.scalar _ _ _, _) => true
  | _ => false

/-- The settings of a whole document: a group, or nothing. -/
def toSettings : Node → Except SettingFault Json
  | .scalar [] true _ => .ok (.object [])
  | .group pairs _ =>
    if !hasTextNames pairs then .error .type
    else
      match memberValues? (depthLimit - 1) [] pairs with
      | some members => .ok (.object members)
      | none => .error .other
  | _ => .error .type

end Node

end AuthzClient.Settings.Yaml
