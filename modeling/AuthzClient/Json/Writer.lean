import AuthzClient.Json.Value
import AuthzClient.Text.Utf8

/-!
Writing JSON values without white space. Inside texts only the quote, the backslash and the control characters below
U+0020 are escaped.
-/

namespace AuthzClient.Json

def escapeChar (c : Char) : List Char :=
  if c == '"' then ['\\', '"']
  else if c == '\\' then ['\\', '\\']
  else if c == '\n' then ['\\', 'n']
  else if c == '\r' then ['\\', 'r']
  else if c == '\t' then ['\\', 't']
  else if c.toNat == 8 then ['\\', 'b']
  else if c.toNat == 12 then ['\\', 'f']
  else if c.toNat < 0x20 then
    ['\\', 'u', '0', '0', Nat.digitChar (c.toNat / 16), Nat.digitChar (c.toNat % 16)]
  else [c]

def quoteChars (s : String) : List Char := '"' :: s.toList.flatMap escapeChar ++ ['"']

/-- The written form of a number; infinity and the like have none and become null. -/
def Number.chars : Number → List Char
  | .whole n => (toString n).toList
  | .real x => if x.isFinite then (x.render Decimal.jsonLayout).toList else ['n', 'u', 'l', 'l']

mutual

def chars : Json → List Char
  | .null => ['n', 'u', 'l', 'l']
  | .bool true => ['t', 'r', 'u', 'e']
  | .bool false => ['f', 'a', 'l', 's', 'e']
  | .number n => n.chars
  | .text s => quoteChars s
  | .array items => '[' :: itemChars items ++ [']']
  | .object members => '\x7b' :: memberChars members ++ ['\x7d']

def itemChars : List Json → List Char
  | [] => []
  | [item] => chars item
  | item :: rest => chars item ++ ',' :: itemChars rest

def memberChars : List (String × Json) → List Char
  | [] => []
  | [(name, value)] => quoteChars name ++ ':' :: chars value
  | (name, value) :: rest => quoteChars name ++ ':' :: chars value ++ ',' :: memberChars rest

end

def write (value : Json) : String := String.ofList (chars value)

def writeBytes (value : Json) : List UInt8 := Text.Utf8.encodeChars (chars value)

end AuthzClient.Json
