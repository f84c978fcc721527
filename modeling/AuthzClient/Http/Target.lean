import AuthzClient.Text.Blank

/-!
Request targets: what a transport takes to find a server and a resource. A target has a scheme with an authority, an
authority alone, or a path alone; its fragment is dropped. The grammar is looser in the path and stricter in the
authority than that of URLs.
-/

namespace AuthzClient.Http

open Text

/-- The target of a request. An empty path is written as `/` behind a scheme. -/
structure Target where
  scheme : Option String
  authority : Option String
  path : String
  query : Option String
  deriving DecidableEq, Repr

namespace Target

def longest : Nat := 65534

def longestScheme : Nat := 64

def isAlphanumeric (c : Char) : Bool := isDigit c || ('a' ≤ c && c ≤ 'z') || ('A' ≤ c && c ≤ 'Z')

def isSchemeChar (c : Char) : Bool := isAlphanumeric c || c == '+' || c == '-' || c == '.' || c == '~'

/-- A character that an authority can have, apart from the ones with a meaning. -/
def isAuthorityChar (c : Char) : Bool := isAlphanumeric c || "!$&'()*+,-.;=_~".toList.contains c

/-- What was met in an authority so far. -/
structure Marks where
  colons : Nat
  opened : Bool
  closed : Bool
  percent : Bool
  /-- Whether the last character was `@`. -/
  atSign : Bool

/-- The most colons that may stand in a row without a bracket or `@` between them. -/
def mostColons : Nat := 8

/-- Reads an authority up to a slash, a question mark or a number sign, and returns what is left. A percent sign is
taken only in front of `@` or in brackets, a single colon only behind both. -/
def readAuthority (marks : Marks) : List Char → Option (List Char × List Char)
  | [] => finish marks []
  | c :: rest =>
    if c == '/' || c == '?' || c == '#' then finish marks (c :: rest)
    else
      let next (marks : Marks) : Option (List Char × List Char) :=
        (readAuthority marks rest).map fun (found, rest) => (c :: found, rest)
      if c == ':' then
        if marks.colons ≥ mostColons then none
        else next { marks with colons := marks.colons + 1, atSign := false }
      else if c == '[' then
        if marks.percent || marks.opened then none else next { marks with opened := true, atSign := false }
      else if c == ']' then
        if !marks.opened || marks.closed then none
        else next { marks with closed := true, colons := 0, percent := false, atSign := false }
      else if c == '@' then next { marks with colons := 0, percent := false, atSign := true }
      else if c == '%' then next { marks with percent := true, atSign := false }
      else if isAuthorityChar c then next { marks with atSign := false }
      else none
where
  finish (marks : Marks) (rest : List Char) : Option (List Char × List Char) :=
    if marks.opened != marks.closed || marks.colons > 1 || marks.atSign || marks.percent then none
    else some ([], rest)

def noMarks : Marks := ⟨0, false, false, false, false⟩

def isPathChar (c : Char) : Bool :=
  let n := c.toNat
  n == 0x21 || n == 0x22 || (0x24 ≤ n && n ≤ 0x3b) || n == 0x3d || (0x40 ≤ n && n ≤ 0x5f) ||
    (0x61 ≤ n && n ≤ 0x7e) || 0x7f ≤ n

def isQueryChar (c : Char) : Bool :=
  let n := c.toNat
  n == 0x21 || (0x24 ≤ n && n ≤ 0x3b) || n == 0x3d || 0x3f ≤ n

def readPath? (cs : List Char) : Option (List Char × Option (List Char)) :=
  let kept := cs.takeWhile (· != '#')
  let path := kept.takeWhile (· != '?')
  if !path.all isPathChar then none
  else
    match kept.dropWhile (· != '?') with
    | _ :: query => if query.all isQueryChar then some (path, some query) else none
    | [] => some (path, none)

inductive Opening
  | scheme (name : List Char) (rest : List Char)
  | none
  | tooLong

/-- The scheme in front of `://`. The two common ones are taken in any case and written in lower case. -/
def opening (cs : List Char) : Opening :=
  let name := cs.takeWhile isSchemeChar
  match cs.dropWhile isSchemeChar with
  | ':' :: '/' :: '/' :: rest =>
    let lowered := name.map lowerAscii
    if lowered = "http".toList ∨ lowered = "https".toList then .scheme lowered rest
    else if name.length > longestScheme then .tooLong
    else .scheme name rest
  | _ => .none

/-- The target that characters write, two or more of them and the first one not a slash. -/
def readFull? (cs : List Char) : Option Target :=
  match opening cs with
  | .tooLong => none
  | .scheme name rest => do
    let (authority, rest) ← readAuthority noMarks rest
    if authority.isEmpty then none
    let (path, query) ← readPath? rest
    return ⟨some (String.ofList name), some (String.ofList authority), String.ofList path, query.map String.ofList⟩
  | .none => do
    let (authority, rest) ← readAuthority noMarks cs
    if !rest.isEmpty then none
    return ⟨none, some (String.ofList authority), "", none⟩

def parse? (s : String) : Option Target :=
  if s.utf8ByteSize > longest then none
  else
    match s.toList with
    | [] => none
    | ['*'] => some ⟨none, none, "*", none⟩
    | '/' :: rest => do
      let (path, query) ← readPath? ('/' :: rest)
      return ⟨none, none, String.ofList path, query.map String.ofList⟩
    | cs => readFull? cs

def render (target : Target) : String :=
  let path := if target.path.isEmpty && (target.scheme.isSome || target.query.isSome) then "/" else target.path
  (match target.scheme with
    | some scheme => scheme ++ "://"
    | none => "") ++
    target.authority.getD "" ++ path ++
  match target.query with
  | some query => "?" ++ query
  | none => ""

end Target

end AuthzClient.Http
