import AuthzClient.Text.Blank
import AuthzClient.Text.Digit

/-!
The texts of a document as they are written: without quotes, in quotes of either kind, or as a block of lines. Line
breaks inside are folded: a single one stands for a space, of several the first one is left out.
-/

namespace AuthzClient.Settings.Yaml

def isBreak (c : Char) : Bool := c == '\n' || c == '\u2028' || c == '\u2029'

def isBlank (c : Char) : Bool := c == ' ' || c == '\t'

/-- Whether a text is at its end or goes on with white space. -/
def isOver : List Char → Bool
  | [] => true
  | c :: _ => isBlank c || isBreak c

/-- Whether three characters that separate documents stand here, alone. -/
def isMarker : List Char → Bool
  | '-' :: '-' :: '-' :: rest | '.' :: '.' :: '.' :: rest => isOver rest
  | _ => false

/-- A place in a document: what is left, and where that begins. -/
structure Place where
  rest : List Char
  column : Nat
  line : Nat
  deriving Repr

namespace Place

def advance (n : Nat) (place : Place) : Place := ⟨place.rest.drop n, place.column + n, place.line⟩

def isAtMarker (place : Place) : Bool := place.column == 0 && isMarker place.rest

/-- Whether nothing more stands in this document. -/
def isAtEnd (place : Place) : Bool := place.rest.isEmpty || place.isAtMarker

end Place

/-- Passes over white space, comments and line breaks. A tab is passed over only where `tabs` says so, and at the
beginning of a line only inside brackets. -/
def gap (brackets : Bool) : (tabs comment : Bool) → (column line : Nat) → List Char → Place
  | _, _, column, line, [] => ⟨[], column, line⟩
  | tabs, comment, column, line, c :: cs =>
    if isBreak c then gap brackets brackets false 0 (line + 1) cs
    else if comment then gap brackets tabs true (column + 1) line cs
    else if c == ' ' || (tabs && c == '\t') then gap brackets tabs false (column + 1) line cs
    else if c == '#' then gap brackets tabs true (column + 1) line cs
    else ⟨c :: cs, column, line⟩

/-- What stands between two runs of a text: blanks in front of the first line break, and the breaks, last one first. -/
structure Seam where
  blanks : List Char
  breaks : List Char
  /-- The first break does not count. -/
  escaped : Bool

namespace Seam

def empty : Seam := ⟨[], [], false⟩

/-- With one more blank; behind a break blanks do not count. -/
def addBlank (c : Char) (seam : Seam) : Seam :=
  if seam.breaks.isEmpty then { seam with blanks := c :: seam.blanks } else seam

def addBreak (c : Char) (seam : Seam) : Seam := { seam with blanks := [], breaks := c :: seam.breaks }

/-- What a seam stands for, last character first. -/
def text (seam : Seam) : List Char :=
  match seam.breaks.reverse with
  | [] => seam.blanks
  | c :: more =>
    if c == '\n' then
      if more.isEmpty && !seam.escaped then [' '] else more.reverse
    else seam.breaks

end Seam

/-- A text that was read, the line on which it ends, and the place behind it. -/
structure Lexeme where
  text : List Char
  last : Nat
  next : Place

def isBracket (c : Char) : Bool := c == ',' || c == '[' || c == ']' || c == '\x7b' || c == '\x7d'

/-- A character behind a colon inside brackets with which a text cannot go on. -/
def isConfusing (cs : List Char) : Bool :=
  match cs with
  | [] => false
  | c :: _ => isBracket c || c == '?'

/-- Whether a text without quotes can begin here. -/
def startsPlain (brackets : Bool) : List Char → Bool
  | [] => false
  | c :: cs =>
    if isBlank c || isBreak c then false
    else if c == '-' then !isOver cs
    else if c == '?' || c == ':' then !brackets && !isOver cs
    else !isBracket c && !("#&*!|>'\"%@\x60".toList.contains c)

/-- Reads a text without quotes. Its lines begin at column `least` or behind it, except inside brackets. `seen` holds
the characters so far, last one first. -/
def readPlain (brackets : Bool) (least : Nat) (seen : List Char) (seam : Seam) (last column line : Nat) :
    List Char → Option Lexeme
  | [] => some ⟨seen.reverse, last, ⟨[], column, line⟩⟩
  | c :: cs =>
    if isBreak c then readPlain brackets least seen (seam.addBreak c) last 0 (line + 1) cs
    else if isBlank c then
      if c == '\t' && !seam.breaks.isEmpty && column < least then none
      else readPlain brackets least seen (seam.addBlank c) last (column + 1) line cs
    else if (column == 0 && isMarker (c :: cs)) || (!seam.breaks.isEmpty && !brackets && column < least) ||
        (c == '#' && !(seam.blanks.isEmpty && seam.breaks.isEmpty)) || (c == ':' && isOver cs) ||
        (brackets && isBracket c) then
      some ⟨seen.reverse, last, ⟨c :: cs, column, line⟩⟩
    else if c == ':' && brackets && isConfusing cs then none
    else readPlain brackets least (c :: (seam.text ++ seen)) .empty line (column + 1) line cs

/-- Reads a text behind its opening single quote. A quote inside is written twice. -/
def readSingle (seen : List Char) (seam : Seam) (column line : Nat) : List Char → Option Lexeme
  | [] => none
  | '\'' :: '\'' :: cs =>
    readSingle ('\'' :: (seam.text ++ seen)) .empty (column + 2) line cs
  | c :: cs =>
    if isBreak c then readSingle seen (seam.addBreak c) 0 (line + 1) cs
    else if isBlank c then readSingle seen (seam.addBlank c) (column + 1) line cs
    else if column == 0 && isMarker (c :: cs) then none
    else if c == '\'' then some ⟨(seam.text ++ seen).reverse, line, ⟨cs, column + 1, line⟩⟩
    else readSingle (c :: (seam.text ++ seen)) .empty (column + 1) line cs

def shortEscape? (c : Char) : Option Char :=
  match c with
  | '0' => some '\x00'
  | 'a' => some '\x07'
  | 'b' => some '\x08'
  | 't' => some '\t'
  | '\t' => some '\t'
  | 'n' => some '\n'
  | 'v' => some '\x0b'
  | 'f' => some '\x0c'
  | 'r' => some '\r'
  | 'e' => some '\x1b'
  | ' ' => some ' '
  | '"' => some '"'
  | '/' => some '/'
  | '\\' => some '\\'
  | 'N' => some '\u0085'
  | '_' => some '\u00a0'
  | 'L' => some '\u2028'
  | 'P' => some '\u2029'
  | _ => none

def readDouble (seen : List Char) (seam : Seam) (column line : Nat) : List Char → Option Lexeme
  | [] => none
  | '\\' :: 'x' :: a :: b :: cs =>
    (Text.charOf? [a, b]).bind fun found => readDouble (found :: (seam.text ++ seen)) .empty (column + 4) line cs
  | '\\' :: 'u' :: a :: b :: c :: d :: cs =>
    (Text.charOf? [a, b, c, d]).bind fun found => readDouble (found :: (seam.text ++ seen)) .empty (column + 6) line cs
  | '\\' :: 'U' :: a :: b :: c :: d :: e :: f :: g :: h :: cs =>
    (Text.charOf? [a, b, c, d, e, f, g, h]).bind fun found =>
      readDouble (found :: (seam.text ++ seen)) .empty (column + 10) line cs
  | '\\' :: e :: cs =>
    if isBreak e then readDouble (seam.text ++ seen) ⟨[], ['\n'], true⟩ 0 (line + 1) cs
    else (shortEscape? e).bind fun found => readDouble (found :: (seam.text ++ seen)) .empty (column + 2) line cs
  | c :: cs =>
    if isBreak c then readDouble seen (seam.addBreak c) 0 (line + 1) cs
    else if isBlank c then readDouble seen (seam.addBlank c) (column + 1) line cs
    else if column == 0 && isMarker (c :: cs) then none
    else if c == '"' then some ⟨(seam.text ++ seen).reverse, line, ⟨cs, column + 1, line⟩⟩
    else readDouble (c :: (seam.text ++ seen)) .empty (column + 1) line cs

/-- What becomes of the line breaks at the end of a block. -/
inductive Chomping
  | strip | clip | keep
  deriving DecidableEq, Repr

structure BlockStyle where
  folded : Bool
  chomping : Chomping
  /-- The column at which the lines of the block begin, zero if that is still to be seen. -/
  margin : Nat
  /-- The least column at which they can begin. -/
  least : Nat

/-- A block of lines as far as it was read; all texts have their last character first. -/
structure BlockText where
  text : List Char
  /-- The break at the end of the last line. -/
  leading : List Char
  trailing : List Char
  /-- Whether the last line begins with a blank. -/
  indented : Bool

namespace BlockText

/-- At the beginning of one more line whose first character is given. -/
def join (folded : Bool) (first : Char) (block : BlockText) : BlockText :=
  let fold := folded && block.leading == ['\n'] && !block.indented && !isBlank first
  let kept := if fold then (if block.trailing.isEmpty then [' '] else []) else block.leading
  ⟨first :: (block.trailing ++ (kept ++ block.text)), [], [], isBlank first⟩

def finish (chomping : Chomping) (block : BlockText) : List Char :=
  (match chomping with
    | .strip => block.text
    | .clip => block.leading ++ block.text
    | .keep => block.trailing ++ (block.leading ++ block.text)).reverse

end BlockText

/-- Reads the lines of a block. `inside` says that a line has begun, `widest` is the largest number of spaces seen in
front of the first line. -/
def readBlock (style : BlockStyle) (block : BlockText) (inside : Bool) (widest column line : Nat) :
    List Char → Option Lexeme
  | [] => some ⟨block.finish style.chomping, line, ⟨[], column, line⟩⟩
  | c :: cs =>
    if inside then
      if isBreak c then readBlock style { block with leading := [c] } false 0 0 (line + 1) cs
      else readBlock style { block with text := c :: block.text } true widest (column + 1) line cs
    else
      let before := style.margin == 0 || column < style.margin
      if before && c == ' ' then readBlock style block false widest (column + 1) line cs
      else if before && c == '\t' then none
      else if isBreak c then
        readBlock style { block with trailing := c :: block.trailing } false (max widest column) 0 (line + 1) cs
      else
        let margin := if style.margin == 0 then max (max widest column) (max style.least 1) else style.margin
        if column == margin then
          readBlock { style with margin := margin } (block.join style.folded c) true widest (column + 1) line cs
        else some ⟨block.finish style.chomping, line - 1, ⟨c :: cs, column, line⟩⟩

/-- Reads what stands behind the mark of a block, up to the end of the line: the chomping and the number of columns by
which the lines are indented. -/
def readBlockHeader (cs : List Char) : Option (Chomping × Nat × List Char) :=
  let chomping? : List Char → Chomping × List Char
    | '+' :: cs => (.keep, cs)
    | '-' :: cs => (.strip, cs)
    | cs => (.clip, cs)
  let digit? : List Char → Option (Nat × List Char)
    | c :: cs => if c == '0' then none else if Text.isDigit c then some (Text.digitValue c, cs) else some (0, c :: cs)
    | [] => some (0, [])
  match cs with
  | '+' :: _ | '-' :: _ => do
    let (chomping, cs) := chomping? cs
    let (indent, cs) ← digit? cs
    return (chomping, indent, cs)
  | cs => do
    let (indent, cs) ← digit? cs
    let (chomping, cs) := if indent = 0 then (.clip, cs) else chomping? cs
    return (chomping, indent, cs)

/-- Reads a block behind its mark. Lines begin at column `least` or behind it. -/
def readBlockText (folded : Bool) (least line : Nat) (cs : List Char) : Option Lexeme := do
  let (chomping, indent, cs) ← readBlockHeader cs
  let rest := cs.dropWhile isBlank
  let rest := match rest with
    | '#' :: _ => rest.dropWhile (!isBreak ·)
    | rest => rest
  let margin := if indent = 0 then 0 else least - 1 + indent
  let start : BlockText := ⟨[], [], [], false⟩
  match rest with
  | [] => readBlock ⟨folded, chomping, margin, least⟩ start false 0 0 line []
  | c :: cs =>
    if isBreak c then readBlock ⟨folded, chomping, margin, least⟩ start false 0 0 (line + 1) cs else none

end AuthzClient.Settings.Yaml
