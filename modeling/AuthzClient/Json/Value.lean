import AuthzClient.Decimal.Shortest
import AuthzClient.Entries

/-!
JSON values. Integers that fit in 64 bits, signed or unsigned, are kept apart from all other numbers; the members of an
object stand in ascending order of their names, one for each name.
-/

namespace AuthzClient

inductive Json.Number
  /-- An integer from `-2 ^ 63` up to `2 ^ 64 - 1`. -/
  | whole (n : Int)
  /-- Any other number, negative zero included. -/
  | real (x : Decimal.Binary64)
  deriving DecidableEq, Repr

inductive Json
  | null
  | bool (b : Bool)
  | number (n : Json.Number)
  | text (s : String)
  | array (items : List Json)
  | object (members : List (String × Json))
  deriving Repr, Inhabited

namespace Json

/-- The text of a number: integers in full, all others in the shortest form that reads back. -/
def Number.render : Number → String
  | .whole n => toString n
  | .real x => x.render Decimal.jsonLayout

def ofInt (n : Int) : Json := .number (.whole n)

def ofNat (n : Nat) : Json := .number (.whole n)

def ofText? : Option String → Json
  | none => .null
  | some s => .text s

/-- An object of the given members; of two with one name the later stays. -/
def ofMembers (members : List (String × Json)) : Json := .object (Entries.ofPairs members)

def member? (name : String) : Json → Option Json
  | .object members => Entries.get? name members
  | _ => none

/-- The text that a value is, if it is one. -/
def text? : Json → Option String
  | .text s => some s
  | _ => none

end Json

end AuthzClient
