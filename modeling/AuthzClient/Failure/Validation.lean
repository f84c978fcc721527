import AuthzClient.Text.Start
import AuthzClient.Text.Word

/-!
What a validation message is about: the field, and the value where the server quotes it. Four forms of message are
known; the first one that is found anywhere in the message counts.
-/

namespace AuthzClient.Validation

open Text

structure Details where
  field : Option String
  value : Option String
  deriving DecidableEq, Repr

namespace Details

def none : Details := ⟨.none, .none⟩

def isEmpty (details : Details) : Bool := details.field.isNone && details.value.isNone

end Details

/-- The first hit of a reader at any place of a text, from left to right. -/
def firstHit {α : Type} (read? : List Char → Option α) : List Char → Option α
  | [] => read? []
  | c :: cs =>
    match read? (c :: cs) with
    | some hit => some hit
    | none => firstHit read? cs

/-- The text in quotes behind a word, if `not found` is said of it. -/
def quotedNotFound? (word : String) (cs : List Char) : Option (List Char) := do
  let rest ← stripStart? (word.toList ++ [' ', '\'']) cs
  let value := rest.takeWhile (· != '\'')
  if value.isEmpty then none
  let _ ← stripStart? "' not found".toList (rest.dropWhile (· != '\''))
  return value

/-- The second of two words with a point between them behind `invalid` and in front of a colon. -/
def qualifiedField? (cs : List Char) : Option (List Char) := do
  let rest ← stripStart? "invalid ".toList cs
  if (rest.takeWhile isWord).isEmpty then none
  let rest ← stripStart? ['.'] (rest.dropWhile isWord)
  let field := rest.takeWhile isWord
  if field.isEmpty then none
  let _ ← stripStart? [':'] (rest.dropWhile isWord)
  return field

/-- Whether a text, with or without a quote in front, goes on with `must not be empty`. -/
def saysEmpty (cs : List Char) : Bool :=
  (stripStart? " must not be empty".toList cs).isSome || (stripStart? "' must not be empty".toList cs).isSome

/-- The first word of which is said that it must not be empty. `run` is the word that ends here, last character
first. -/
def emptyField? (run : List Char) : List Char → Option (List Char)
  | [] => none
  | c :: cs =>
    if isWord c then emptyField? (c :: run) cs
    else if !run.isEmpty && saysEmpty (c :: cs) then some run.reverse
    else emptyField? [] cs

def extract (message : String) : Details :=
  let cs := message.toList
  match firstHit (quotedNotFound? "relation") cs with
  | some value => ⟨some "relation", some (String.ofList value)⟩
  | none =>
    match firstHit (quotedNotFound? "type") cs with
    | some value => ⟨some "type", some (String.ofList value)⟩
    | none =>
      match firstHit qualifiedField? cs with
      | some field => ⟨some (String.ofList field), none⟩
      | none =>
        match emptyField? [] cs with
        | some field => ⟨some (String.ofList field), none⟩
        | none => .none

end AuthzClient.Validation
