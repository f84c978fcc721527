import AuthzClient.Settings.Yaml.Lexeme
import AuthzClient.Settings.Yaml.Node

/-!
Reading the parts of a document. Where a part ends follows from the columns: what belongs to a group or a list begins
behind the column of its names or dashes. Inside brackets columns do not count. A name and its colon stand on one line.
-/

namespace AuthzClient.Settings.Yaml

/-- A place in a document with the parts that were given names so far. -/
structure Cursor where
  place : Place
  named : Entries Node

namespace Cursor

def moveTo (place : Place) (cursor : Cursor) : Cursor := { cursor with place := place }

def advance (n : Nat) (cursor : Cursor) : Cursor := cursor.moveTo (cursor.place.advance n)

def pass (brackets tabs : Bool) (cursor : Cursor) : Cursor :=
  cursor.moveTo (gap brackets tabs false cursor.place.column cursor.place.line cursor.place.rest)

/-- With a part under a name, if it has one. -/
def remember (name : Option String) (node : Node) (cursor : Cursor) : Cursor :=
  match name with
  | some name => { cursor with named := Entries.put name node cursor.named }
  | none => cursor

/-- Whether a character stands here with white space behind it. -/
def isAt (c : Char) (cursor : Cursor) : Bool :=
  match cursor.place.rest with
  | d :: cs => c == d && isOver cs
  | [] => false

/-- Whether the next thing stands on a later line than a given one, or nothing more stands in this document. -/
def isBehindLine (line : Nat) (cursor : Cursor) : Bool := cursor.place.rest.isEmpty || line < cursor.place.line

/-- Whether nothing more stands behind a given column. -/
def isOut (column : Nat) (cursor : Cursor) : Bool := cursor.place.isAtEnd || cursor.place.column < column

end Cursor

/-- What stands in front of a part: a name for it, and a tag. -/
structure Properties where
  name : Option String
  tag : Option String

namespace Properties

def none : Properties := ⟨.none, .none⟩

def isEmpty (properties : Properties) : Bool := properties.name.isNone && properties.tag.isNone

end Properties

def isNameChar (c : Char) : Bool := c.isAlphanum || c == '_' || c == '-'

def readName (place : Place) : Option (String × Place) :=
  let name := place.rest.takeWhile isNameChar
  let next := place.advance name.length
  let ends := isOver next.rest || match next.rest with
    | c :: _ => "?:,]\x7d%@\x60".toList.contains c
    | [] => true
  if name.isEmpty || !ends then none else some (String.ofList name, next)

def isTagChar (c : Char) : Bool := c.isAlphanum || "-_;/?:@&=+$.!~*'()%".toList.contains c

/-- Whether every percent sign has two digits in base sixteen behind it. -/
def hasWholeEscapes : List Char → Bool
  | '%' :: a :: b :: cs => (Text.digitIn? 16 a).isSome && (Text.digitIn? 16 b).isSome && hasWholeEscapes cs
  | '%' :: _ => false
  | _ :: cs => hasWholeEscapes cs
  | [] => true

/-- Reads a tag behind its first mark: a whole one between angles, one of the core vocabulary behind a second mark, or
one of the user's own. -/
def readTag (brackets : Bool) (place : Place) : Option (String × Place) :=
  let found? : Option (List Char × String × Nat) :=
    match place.rest with
    | '<' :: cs =>
      let inner := cs.takeWhile (· != '>')
      if inner.isEmpty || inner.length = cs.length then none else some (inner, String.ofList inner, inner.length + 2)
    | '!' :: cs =>
      let suffix := cs.takeWhile isTagChar
      if suffix.isEmpty then none else some (suffix, Scalar.coreTag (String.ofList suffix), suffix.length + 1)
    | cs =>
      let suffix := cs.takeWhile isTagChar
      if (cs.dropWhile isNameChar).head? = some '!' then none
      else some (suffix, String.ofList ('!' :: suffix), suffix.length)
  found?.bind fun (written, tag, length) =>
    let next := place.advance length
    let ends := isOver next.rest || (brackets && next.rest.head? = some ',')
    if ends && hasWholeEscapes written then some (tag, next) else none

/-- Reads what stands in front of a part, as far as it is on one line. -/
def readProperties (brackets : Bool) : Nat → Properties → Cursor → Option (Properties × Cursor)
  | 0, _, _ => none
  | fuel + 1, properties, cursor =>
    let next (properties : Properties) (place : Place) : Option (Properties × Cursor) :=
      let passed := (cursor.moveTo place).pass brackets true
      if !brackets && passed.isBehindLine place.line then some (properties, passed)
      else readProperties brackets fuel properties passed
    match cursor.place.rest with
    | '&' :: _ =>
      if properties.name.isSome then none
      else (readName (cursor.place.advance 1)).bind fun (name, place) => next { properties with name := some name } place
    | '!' :: _ =>
      if properties.tag.isSome then none
      else (readTag brackets (cursor.place.advance 1)).bind fun (tag, place) =>
        next { properties with tag := some tag } place
    | _ => some (properties, cursor)

/-- Reads a part that stands elsewhere under a name. -/
def readNamed (cursor : Cursor) : Option (Node × Nat × Cursor) :=
  (readName (cursor.place.advance 1)).bind fun (name, place) =>
    (Entries.get? name cursor.named).map fun node => (node, place.line, cursor.moveTo place)

def ofLexeme (cursor : Cursor) (plain : Bool) (lexeme : Lexeme) : Node × Nat × Cursor :=
  (.scalar lexeme.text plain none, lexeme.last, cursor.moveTo lexeme.next)

mutual

def readInner : Nat → (least : Nat) → Cursor → Option (Node × Cursor)
  | 0, _, _ => none
  | fuel + 1, least, start => do
    let (properties, cursor) ← readProperties true 3 .none start
    let (node, next) ← match cursor.place.rest with
      | [] => none
      | c :: _ =>
        if !properties.isEmpty && (c == ',' || c == ']' || c == '\x7d' || c == ':') then some (Node.nothing, cursor)
        else if c == '*' && !properties.isEmpty then none
        else (readAtom fuel true least cursor).map fun (node, _, next) => (node, next.pass true true)
    let node := node.withTag properties.tag
    return (node, next.remember properties.name node)

/-- Reads a part that is not laid out in columns, with the line on which it ends. -/
def readAtom : Nat → (brackets : Bool) → (least : Nat) → Cursor → Option (Node × Nat × Cursor)
  | 0, _, _, _ => none
  | fuel + 1, brackets, least, cursor =>
    let place := cursor.place
    let ended (found : Node × Cursor) : Node × Nat × Cursor := (found.1, found.2.place.line, found.2)
    if place.isAtMarker then none
    else
      match place.rest with
      | '*' :: _ => readNamed cursor
      | '[' :: _ => (readItems fuel least [] ((cursor.advance 1).pass true true)).map ended
      | '\x7b' :: _ => (readMembers fuel least [] ((cursor.advance 1).pass true true)).map ended
      | '\'' :: cs => (readSingle [] .empty (place.column + 1) place.line cs).map (ofLexeme cursor false)
      | '"' :: cs => (readDouble [] .empty (place.column + 1) place.line cs).map (ofLexeme cursor false)
      | cs =>
        if startsPlain brackets cs then
          (readPlain brackets least [] .empty place.line place.column place.line cs).map (ofLexeme cursor true)
        else none

/-- Reads the items of a list in brackets, from an item or the closing bracket on. -/
def readItems : Nat → (least : Nat) → List Node → Cursor → Option (Node × Cursor)
  | 0, _, _, _ => none
  | fuel + 1, least, items, cursor =>
    match cursor.place.rest with
    | ']' :: _ => some (.list items.reverse none, cursor.advance 1)
    | _ => do
      let explicit := cursor.isAt '?'
      let (name, value, next) ← readMember fuel least (if explicit then (cursor.advance 1).pass true true else cursor)
      let item := match value with
        | some value => .group [(name, value)] none
        | none => if explicit then .group [(name, .nothing)] none else name
      match next.place.rest with
      | ',' :: _ => readItems fuel least (item :: items) ((next.advance 1).pass true true)
      | ']' :: _ => some (.list (item :: items).reverse none, next.advance 1)
      | _ => none

/-- Reads the members of a group in brackets, from a name or the closing bracket on. -/
def readMembers : Nat → (least : Nat) → List (Node × Node) → Cursor → Option (Node × Cursor)
  | 0, _, _, _ => none
  | fuel + 1, least, pairs, cursor =>
    match cursor.place.rest with
    | '\x7d' :: _ => some (.group pairs.reverse none, cursor.advance 1)
    | _ => do
      let explicit := cursor.isAt '?'
      let (name, value, next) ← readMember fuel least (if explicit then (cursor.advance 1).pass true true else cursor)
      let pairs := (name, value.getD .nothing) :: pairs
      match next.place.rest with
      | ',' :: _ => readMembers fuel least pairs ((next.advance 1).pass true true)
      | '\x7d' :: _ => some (.group pairs.reverse none, next.advance 1)
      | _ => none

/-- Reads a part inside brackets and, if a colon stands behind it on its line, the part behind that. -/
def readMember : Nat → (least : Nat) → Cursor → Option (Node × Option Node × Cursor)
  | 0, _, _ => none
  | fuel + 1, least, cursor => do
    let (name, next) ← readInner fuel least cursor
    match next.place.rest with
    | ':' :: _ =>
      if next.place.line ≠ cursor.place.line then none
      else
        let behind := (next.advance 1).pass true true
        match behind.place.rest with
        | ',' :: _ | ']' :: _ | '\x7d' :: _ => return (name, some .nothing, behind)
        | _ =>
          let (value, next) ← readInner fuel least behind
          return (name, some value, next)
    | _ => return (name, none, next)

end

/-- The place of a colon behind a name on one line, if there is one. -/
def colonOf? (line : Nat) (cursor : Cursor) : Option Cursor :=
  let behind := cursor.moveTo (cursor.place.advance (cursor.place.rest.takeWhile isBlank).length)
  if behind.place.line = line && behind.isAt ':' then some behind else none

/-- Reads a part that is not laid out in columns; in front of a colon nothing can stand for one that has properties. -/
def readSimple (fuel least : Nat) (properties : Properties) (cursor : Cursor) : Option (Node × Nat × Cursor) :=
  if !properties.isEmpty && cursor.isAt ':' then some (.nothing, cursor.place.line, cursor)
  else if !properties.isEmpty && cursor.place.rest.head? = some '*' then none
  else readAtom fuel false least cursor

def readKey (fuel least : Nat) (start : Cursor) : Option (Node × Cursor) := do
  let (properties, cursor) ← readProperties false 3 .none start
  let (node, _, next) ← readSimple fuel least properties cursor
  let node := node.withTag properties.tag
  return (node, ← colonOf? start.place.line (next.remember properties.name node))

def Cursor.isAtLines (cursor : Cursor) : Bool :=
  match cursor.place.rest with
  | '|' :: _ | '>' :: _ => true
  | _ => false

/-- Whether something stands here for a part that has to begin at column `least` or behind it. The mark of a block of
lines can stand one column before, and so can the dash of a list that belongs to a name. -/
def hasPart (least : Nat) (dash : Bool) (cursor : Cursor) : Bool :=
  !cursor.place.isAtEnd &&
    (least ≤ cursor.place.column ||
      (cursor.place.column + 1 = least && (cursor.isAtLines || (dash && cursor.isAt '-'))))

mutual

/-- Reads a part that begins here, in columns or not. `keys` says whether a group or a list can begin on this line.
What stands behind the part is on a later line. -/
def readPart : Nat → (least : Nat) → (keys dash : Bool) → Cursor → Option (Node × Cursor)
  | 0, _, _, _, _ => none
  | fuel + 1, least, keys, dash, start => do
    let (properties, cursor) ← readProperties false 3 .none start
    if !properties.isEmpty && cursor.isBehindLine start.place.line then
      let (node, next) ←
        if hasPart least dash cursor then readPart fuel least true dash cursor else some (.nothing, cursor)
      let node := node.withTag properties.tag
      return (node, next.remember properties.name node)
    else if cursor.isAt '-' then
      if keys && properties.isEmpty then readEntries fuel cursor.place.column [] cursor else none
    else if cursor.isAt '?' then
      if keys && properties.isEmpty then readPairs fuel cursor.place.column [] cursor else none
    else
      match cursor.place.rest with
      | '|' :: cs => readLines least false properties cursor cs
      | '>' :: cs => readLines least true properties cursor cs
      | _ =>
        let (node, last, next) ← readSimple fuel least properties cursor
        let node := node.withTag properties.tag
        let named := next.remember properties.name node
        match if keys then colonOf? start.place.line named else none with
        | some colon => readValue fuel start.place.column [] node true colon
        | none =>
          let passed := named.pass false true
          if passed.isBehindLine last then return (node, passed) else none

def readLines (least : Nat) (folded : Bool) (properties : Properties) (cursor : Cursor) (cs : List Char) :
    Option (Node × Cursor) := do
  let lexeme ← readBlockText folded least cursor.place.line cs
  let node := (Node.scalar lexeme.text false none).withTag properties.tag
  return (node, ((cursor.moveTo lexeme.next).remember properties.name node).pass false false)

/-- Reads the items of a list whose dashes stand at a column. -/
def readEntries : Nat → (column : Nat) → List Node → Cursor → Option (Node × Cursor)
  | 0, _, _, _ => none
  | fuel + 1, column, items, cursor => do
    let behind := (cursor.advance 1).pass false false
    let (item, next) ←
      if behind.isBehindLine cursor.place.line && !hasPart (column + 1) false behind then some (.nothing, behind)
      else readPart fuel (column + 1) true false behind
    if !next.isOut column && next.place.column = column && next.isAt '-' then
      readEntries fuel column (item :: items) next
    else if next.isOut (column + 1) then return (.list (item :: items).reverse none, next)
    else none

/-- Reads the pairs of a group whose names stand at a column. -/
def readPairs : Nat → (column : Nat) → List (Node × Node) → Cursor → Option (Node × Cursor)
  | 0, _, _, _ => none
  | fuel + 1, column, pairs, cursor => do
    if cursor.isAt '?' then
      let behind := (cursor.advance 1).pass false false
      let (name, next) ←
        if behind.isBehindLine cursor.place.line && !hasPart (column + 1) true behind then some (.nothing, behind)
        else readPart fuel (column + 1) true true behind
      if !next.isOut column && next.place.column = column && next.isAt ':' then
        readValue fuel column pairs name false next
      else nextPair fuel column ((name, .nothing) :: pairs) next
    else
      let (name, colon) ← readKey fuel (column + 1) cursor
      readValue fuel column pairs name true colon

/-- Reads the part behind a colon. Behind a name on the same line no group or list can begin on that line. -/
def readValue : Nat → (column : Nat) → List (Node × Node) → Node → (sameLine : Bool) → Cursor → Option (Node × Cursor)
  | 0, _, _, _, _, _ => none
  | fuel + 1, column, pairs, name, sameLine, colon => do
    let behind := (colon.advance 1).pass false sameLine
    let later := behind.isBehindLine colon.place.line
    let (value, next) ←
      if later && !hasPart (column + 1) true behind then some (.nothing, behind)
      else readPart fuel (column + 1) (later || !sameLine) true behind
    nextPair fuel column ((name, value) :: pairs) next

def nextPair : Nat → (column : Nat) → List (Node × Node) → Cursor → Option (Node × Cursor)
  | 0, _, _, _ => none
  | fuel + 1, column, pairs, next =>
    if next.isOut column then some (.group pairs.reverse none, next)
    else if next.place.column = column then readPairs fuel column pairs next
    else none

end

end AuthzClient.Settings.Yaml
