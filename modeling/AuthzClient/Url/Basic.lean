import AuthzClient.Text.Blank

/-!
URLs as records: a scheme, an optional authority with user name, password, host and port, a path, and optional query
and fragment. Every part is kept in the encoded form in which it is written.
-/

namespace AuthzClient

inductive Url.Host
  /-- A name; the empty one stands for no host behind the two slashes. -/
  | domain (name : String)
  /-- An address of 32 bits. -/
  | ipv4 (address : Nat)
  /-- An address of eight pieces of 16 bits. -/
  | ipv6 (pieces : List Nat)
  deriving DecidableEq, Repr

inductive Url.Path
  /-- Text that is not divided into segments. -/
  | plain (text : String)
  /-- Segments, each written behind a slash. -/
  | segments (names : List String)
  deriving DecidableEq, Repr

structure Url where
  scheme : String
  username : String
  password : Option String
  host : Option Url.Host
  port : Option Nat
  path : Url.Path
  query : Option String
  fragment : Option String
  deriving DecidableEq, Repr

namespace Url

/-- The four bytes of an address, first one first. -/
def Host.octets (address : Nat) : List Nat :=
  [address / 0x100_0000 % 256, address / 0x1_0000 % 256, address / 0x100 % 256, address % 256]

def leadingZeros : List Nat → Nat
  | 0 :: rest => leadingZeros rest + 1
  | _ => 0

/-- Place and length of the first longest run of zeros, from a place on; runs of one do not count. -/
def longestZeros : List Nat → Nat → Nat × Nat
  | [], _ => (0, 1)
  | piece :: rest, place =>
    let here := leadingZeros (piece :: rest)
    let (later, length) := longestZeros rest (place + 1)
    if here > 1 ∧ here ≥ length then (place, here) else (later, length)

def pieceChars (pieces : List Nat) : List Char :=
  [ ':' ].intercalate (pieces.map (Nat.toDigits 16))

/-- The text of an address of eight pieces; the longest run of zeros is left out. -/
def ipv6Chars (pieces : List Nat) : List Char :=
  let (place, length) := longestZeros pieces 0
  if length ≤ 1 then pieceChars pieces
  else pieceChars (pieces.take place) ++ ':' :: ':' :: pieceChars (pieces.drop (place + length))

def Host.chars : Host → List Char
  | .domain name => name.toList
  | .ipv4 address => [ '.' ].intercalate ((Host.octets address).map (Nat.toDigits 10))
  | .ipv6 pieces => '[' :: ipv6Chars pieces ++ [']']

/-- The text of the host, if there is one that is not empty. -/
def hostText? (url : Url) : Option String :=
  match url.host with
  | none => none
  | some host => if host.chars.isEmpty then none else some (String.ofList host.chars)

def userinfoChars (url : Url) : List Char :=
  match url.password with
  | some password => url.username.toList ++ ':' :: password.toList ++ ['@']
  | none => if url.username.isEmpty then [] else url.username.toList ++ ['@']

def authorityChars (url : Url) : List Char :=
  match url.host with
  | none => []
  | some host =>
    '/' :: '/' :: url.userinfoChars ++ host.chars ++
      match url.port with
      | some port => ':' :: Nat.toDigits 10 port
      | none => []

def Path.chars : Path → List Char
  | .plain text => text.toList
  | .segments names => names.flatMap fun name => '/' :: name.toList

/-- The path as it is written behind the authority. Without one, a path that begins with two slashes is kept apart
from an authority by `/.` in front. -/
def pathChars (url : Url) : List Char :=
  match url.host, url.path with
  | none, .segments ("" :: name :: names) => '/' :: '.' :: (Path.segments ("" :: name :: names)).chars
  | _, path => path.chars

def tailChars (url : Url) : List Char :=
  (match url.query with
    | some query => '?' :: query.toList
    | none => []) ++
  match url.fragment with
  | some fragment => '#' :: fragment.toList
  | none => []

def chars (url : Url) : List Char :=
  url.scheme.toList ++ ':' :: (url.authorityChars ++ (url.pathChars ++ url.tailChars))

def text (url : Url) : String := String.ofList url.chars

def pathText (url : Url) : String := String.ofList url.path.chars

end Url

end AuthzClient
