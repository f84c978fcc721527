import AuthzClient.Settings.Yaml.Reader
import AuthzClient.Text.Utf8

/-!
Settings in a document: one document of legal characters in a file, with or without separators around it.
-/

namespace AuthzClient.Settings.Yaml

def isLegal (c : Char) : Bool :=
  let n := c.toNat
  n == 0x09 || n == 0x0a || n == 0x0d || (0x20 ≤ n && n ≤ 0x7e) || n == 0x85 || (0xa0 ≤ n && n ≤ 0xfffd) || 0x10000 ≤ n

/-- A text with one character for every line break. -/
def unifyBreaks : List Char → List Char
  | '\r' :: '\n' :: cs => '\n' :: unifyBreaks cs
  | c :: cs => (if c == '\r' || c == '\u0085' then '\n' else c) :: unifyBreaks cs
  | [] => []

/-- Passes over the lines that say which version of the format a document has, if there are any. -/
def readVersion (place : Place) : Option Place :=
  match place.rest with
  | '%' :: _ =>
    let line := place.rest.takeWhile (!isBreak ·)
    let words := (String.ofList (line.takeWhile (· != '#'))).splitToList isBlank
    match words.filter (!·.isEmpty) with
    | ["%YAML", "1.1"] | ["%YAML", "1.2"] =>
      let next := gap false false false 0 (place.line + 1) (place.rest.drop (line.length + 1))
      if next.isAtMarker && next.rest.head? = some '-' then some next else none
    | _ => none
  | _ => some place

/-- Whether nothing but white space and final separators stands behind a document. -/
def isLast : Nat → Place → Bool
  | 0, _ => false
  | fuel + 1, place =>
    if place.rest.isEmpty then true
    else if place.isAtMarker && place.rest.head? = some '.' then
      let next := gap false true false 3 place.line (place.rest.drop 3)
      next.rest.isEmpty || (place.line < next.line && isLast fuel next)
    else false

/-- Reads the only document of a text. -/
def readDocument (cs : List Char) : Option Node := do
  let place ← readVersion (gap false false false 0 0 cs)
  let fuel := 8 * cs.length + 16
  let separated := place.isAtMarker && place.rest.head? = some '-'
  if place.isAtMarker && !separated then none
  let start : Cursor := ⟨if separated then place.advance 3 else place, []⟩
  let start := start.pass false separated
  let (node, next) ←
    if start.place.isAtEnd then some (.nothing, start)
    else readPart fuel 0 (!separated || place.line < start.place.line) false start
  if isLast fuel next.place then return node else none

def settings (bytes : List UInt8) : Except SettingFault Json :=
  match Text.Utf8.decode? bytes with
  | none => .error .other
  | some cs =>
    let cs := match cs with
      | '\ufeff' :: cs => cs
      | cs => cs
    if !cs.all isLegal then .error .other
    else
      match readDocument (unifyBreaks cs) with
      | some node => node.toSettings
      | none => .error .other

end AuthzClient.Settings.Yaml
