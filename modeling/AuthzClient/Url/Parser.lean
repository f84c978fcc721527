import AuthzClient.Url.Host

/-!
Reading absolute URLs as browsers do: white space and controls around the text and tabs and line ends in it do not
count, schemes of the web take backslashes for slashes and any number of them in front of the authority, dot segments
are resolved, and whatever a part may not hold is percent-encoded.
-/

namespace AuthzClient.Url

open Text

/-- The text that counts: without controls and spaces at its ends, without tabs and line ends. -/
def relevant (cs : List Char) : List Char :=
  let isOuter (c : Char) : Bool := c.toNat ≤ 0x20
  let trimmed := ((cs.dropWhile isOuter).reverse.dropWhile isOuter).reverse
  trimmed.filter fun c => c != '\t' && c != '\n' && c != '\r'

def isLetter (c : Char) : Bool := ('a' ≤ c && c ≤ 'z') || ('A' ≤ c && c ≤ 'Z')

/-- A character that a scheme can have behind its first letter. -/
def isSchemeChar (c : Char) : Bool := isLetter c || isDigit c || c == '+' || c == '-' || c == '.'

/-- The scheme in front of a colon, in lower case, and what is behind the colon. -/
def readScheme? (cs : List Char) : Option (List Char × List Char) :=
  match cs with
  | [] => none
  | c :: _ =>
    if !isLetter c then none
    else
      match cs.dropWhile isSchemeChar with
      | ':' :: rest => some ((cs.takeWhile isSchemeChar).map lowerAscii, rest)
      | _ => none

/-- How the text behind the scheme is read. -/
inductive Kind
  /-- A scheme of the web, with its default port. -/
  | web (defaultPort : Nat)
  | file
  | other
  deriving DecidableEq, Repr

def Kind.ofScheme (scheme : List Char) : Kind :=
  if scheme = "http".toList ∨ scheme = "ws".toList then .web 80
  else if scheme = "https".toList ∨ scheme = "wss".toList then .web 443
  else if scheme = "ftp".toList then .web 21
  else if scheme = "file".toList then .file
  else .other

/-- Whether a backslash counts as a slash. -/
def Kind.isSpecial : Kind → Bool
  | .other => false
  | _ => true

/-- A slash, or a backslash where that counts as one. -/
def isSlash (special : Bool) (c : Char) : Bool := c == '/' || (special && c == '\\')

/-- A character at which the path, the query or the fragment begins. -/
def endsAuthority (special : Bool) (c : Char) : Bool := isSlash special c || c == '?' || c == '#'

/-- A byte that stands for itself in user names and passwords. -/
def isUserByte (b : UInt8) : Bool :=
  0x20 < b && b < 0x7f && !"\"#/:;<=>?@[\\]^\x60\x7b|\x7d".toList.contains (Char.ofNat b.toNat)

def isPathByte (b : UInt8) : Bool :=
  0x20 < b && b < 0x7f && !"\"#<>?\x60\x7b\x7d".toList.contains (Char.ofNat b.toNat)

def isQueryByte (special : Bool) (b : UInt8) : Bool :=
  0x20 < b && b < 0x7f && !"\"#<>".toList.contains (Char.ofNat b.toNat) && !(special && b == 0x27)

def isFragmentByte (b : UInt8) : Bool :=
  0x20 < b && b < 0x7f && !"\"<>\x60".toList.contains (Char.ofNat b.toNat)

/-- What is before and behind the last `@` of a text that has one. -/
def splitLastAt (cs : List Char) : Option (List Char × List Char) :=
  if cs.contains '@' then
    let behind := (cs.reverse.takeWhile (· != '@')).reverse
    some (cs.take (cs.length - behind.length - 1), behind)
  else none

/-- User name, password and what is behind the `@`. A text with `@` but nothing on either side of it before the path
is refused. -/
def readUserinfo? (special : Bool) (cs : List Char) : Option (List Char × Option (List Char) × List Char) :=
  let authority := cs.takeWhile (!endsAuthority special ·)
  let rest := cs.dropWhile (!endsAuthority special ·)
  match splitLastAt authority with
  | none => some ([], none, cs)
  | some (before, behind) =>
    if before.isEmpty ∧ behind.isEmpty ∧ !rest.isEmpty then none
    else
      let username := Percent.encodeChars isUserByte (before.takeWhile (· != ':'))
      let password := Percent.encodeChars isUserByte ((before.dropWhile (· != ':')).drop 1)
      some (username, if password.isEmpty then none else some password, behind ++ rest)

/-- The text of the host and what is behind it. A colon outside brackets ends it. -/
def readHostText (special : Bool) : (inBrackets : Bool) → List Char → List Char × List Char
  | _, [] => ([], [])
  | inBrackets, c :: rest =>
    if endsAuthority special c || (c == ':' && !inBrackets) then ([], c :: rest)
    else
      let (host, behind) := readHostText special (if c == '[' then true else if c == ']' then false else inBrackets) rest
      (c :: host, behind)

def largestPort : Nat := 65535

/-- The port behind a colon, nothing if it is missing or the default one, and what is behind it. -/
def readPort? (defaultPort : Option Nat) (cs : List Char) : Option (Option Nat × List Char) :=
  let digits := cs.takeWhile isDigit
  let rest := cs.dropWhile isDigit
  let port := digitsValue digits
  if port > largestPort then none
  else
    match rest with
    | c :: _ =>
      if endsAuthority true c then some (given digits port, rest) else none
    | [] => some (given digits port, [])
where
  /-- The port unless it goes without saying. -/
  given (digits : List Char) (port : Nat) : Option Nat :=
    if digits.isEmpty ∨ some port = defaultPort then none else some port

def isDot (segment : List Char) : Bool := segment.map lowerAscii == ['.'] || segment.map lowerAscii == "%2e".toList

def isDoubleDot (segment : List Char) : Bool :=
  ["..", ".%2e", "%2e.", "%2e%2e"].contains (String.ofList (segment.map lowerAscii))

/-- A letter with a colon or a bar: the name of a drive, which is never left upwards. -/
def isDrive (segment : List Char) : Bool :=
  match segment with
  | [c, d] => isLetter c && (d == ':' || d == '|')
  | _ => false

/-- The place above the one that segments lead to, last one first; the name of a drive is not left. -/
def climb : List (List Char) → List (List Char)
  | [] => []
  | last :: above => if isDrive last then last :: above else above

/-- Resolves dot segments. `above` holds the segments so far, last one first. -/
def resolve (above : List (List Char)) : List (List Char) → List (List Char)
  | [] => above.reverse
  | [last] =>
    if isDoubleDot last then ([] :: climb above).reverse
    else if isDot last then ([] :: above).reverse
    else (last :: above).reverse
  | segment :: rest =>
    if isDoubleDot segment then resolve (climb above) rest
    else if isDot segment then resolve above rest
    else resolve (segment :: above) rest

def splitPath (special : Bool) (cs : List Char) : List (List Char) :=
  splitChars '/' (cs.map fun c => if isSlash special c then '/' else c)

def readSegments (special : Bool) (cs : List Char) : List (List Char) :=
  resolve [] ((splitPath special cs).map (Percent.encodeChars isPathByte))

def endsPath (c : Char) : Bool := c == '?' || c == '#'

def pathOf (segments : List (List Char)) : Path := .segments (segments.map String.ofList)

/-- The path behind an authority. Only in schemes of the web it always has a segment. -/
def readPath (special : Bool) (cs : List Char) : Path :=
  let text := cs.takeWhile (!endsPath ·)
  match text with
  | [] => if special then pathOf [[]] else pathOf []
  | c :: rest => pathOf (readSegments special (if isSlash special c then rest else c :: rest))

def readTail (special : Bool) (cs : List Char) : Option String × Option String :=
  let rest := cs.dropWhile (!endsPath ·)
  let fragment (cs : List Char) : Option String :=
    match cs with
    | '#' :: rest => some (String.ofList (Percent.encodeChars isFragmentByte rest))
    | _ => none
  match rest with
  | '?' :: rest =>
    (some (String.ofList (Percent.encodeChars (isQueryByte special) (rest.takeWhile (· != '#')))),
      fragment (rest.dropWhile (· != '#')))
  | rest => (none, fragment rest)

/-- The URL behind the two slashes in front of an authority. -/
def readAuthority? (scheme : List Char) (kind : Kind) (cs : List Char) : Option Url := do
  let special := kind.isSpecial
  let (username, password, rest) ← readUserinfo? special cs
  let (hostText, rest) := readHostText special false rest
  let host ←
    if hostText.isEmpty then
      if special || rest.head? == some ':' || !username.isEmpty || password.isSome then none else some (.domain "")
    else if special then webHost? hostText
    else otherHost? hostText
  let defaultPort := match kind with
    | .web port => some port
    | _ => none
  let (port, rest) ← match rest with
    | ':' :: rest => readPort? defaultPort rest
    | rest => some (none, rest)
  let (query, fragment) := readTail special rest
  return {
    scheme := String.ofList scheme, username := String.ofList username, password := password.map String.ofList,
    host := some host, port := port, path := readPath special rest, query := query, fragment := fragment }

/-- The segments of a path without empty ones in front of the rest. -/
def dropEmpty : List (List Char) → List (List Char)
  | [] :: segment :: rest => dropEmpty (segment :: rest)
  | segments => segments

/-- The URL of a file behind the scheme. A drive at the front of the path is written with a colon and has no host. -/
def readFile? (cs : List Char) : Option Url := do
  let (host, rest) ← match cs with
    | c :: d :: rest =>
      if isSlash true c && isSlash true d then do
        let text := rest.takeWhile (!endsAuthority true ·)
        let rest' := rest.dropWhile (!endsAuthority true ·)
        if text.isEmpty || isDrive text then some (Host.domain "", rest)
        else
          let host ← webHost? text
          some (if host = .domain "localhost" then .domain "" else host, rest')
      else some (.domain "", cs)
    | cs => some (.domain "", cs)
  let (query, fragment) := readTail true rest
  let text := rest.takeWhile (!endsPath ·)
  let segments := readSegments true (match text with
    | c :: more => if isSlash true c then more else c :: more
    | [] => [])
  let (host, segments) := match segments with
    | [c, d] :: names => if isDrive [c, d] then (.domain "", [c, ':'] :: names) else (host, segments)
    | segments => (host, segments)
  return {
    scheme := "file", username := "", password := none, host := some host, port := none,
    path := pathOf (dropEmpty segments), query := query, fragment := fragment }

/-- A byte that stands for itself in undivided paths. -/
def isPlainByte (b : UInt8) : Bool := 0x20 ≤ b && b < 0x7f

/-- The URL without an authority behind the scheme. -/
def readPlain (scheme : List Char) (cs : List Char) : Url :=
  let (query, fragment) := readTail false cs
  let text := cs.takeWhile (!endsPath ·)
  let path : Path := match text with
    | '/' :: rest => pathOf (readSegments false rest)
    | text => .plain (String.ofList (Percent.encodeChars isPlainByte text))
  { scheme := String.ofList scheme, username := "", password := none, host := none, port := none,
    path := path, query := query, fragment := fragment }

def ofChars? (cs : List Char) : Option Url := do
  let (scheme, rest) ← readScheme? (relevant cs)
  match Kind.ofScheme scheme with
  | .web port => readAuthority? scheme (.web port) (rest.dropWhile (isSlash true))
  | .file => readFile? rest
  | .other =>
    match rest with
    | '/' :: '/' :: rest => readAuthority? scheme .other rest
    | rest => some (readPlain scheme rest)

def parse? (s : String) : Option Url := ofChars? s.toList

end AuthzClient.Url
