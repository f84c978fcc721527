import AuthzClient.Text.Blank
import AuthzClient.Text.Quoted
import AuthzClient.Time.Span

/-!
The text of a span: numbers with units, largest unit first, as in `1h 30m`. Reading takes any sequence of numbers with
units, spelled in several ways, and exact fractions; writing uses one spelling for each unit and leaves out zeros.
-/

namespace AuthzClient.SpanText

open Time Text

/-- The units of time. A month is 30.44 days, a year 365.25 days. -/
inductive Unit
  | nanosecond | microsecond | millisecond | second | minute | hour | day | week | month | year
  deriving DecidableEq, Repr

/-- The unit that a name means; names are told apart by case. -/
def Unit.ofName? (name : String) : Option Unit :=
  if ["nanos", "nsec", "ns"].contains name then some .nanosecond
  else if ["usec", "us", "µs"].contains name then some .microsecond
  else if ["millis", "msec", "ms"].contains name then some .millisecond
  else if ["seconds", "second", "secs", "sec", "s"].contains name then some .second
  else if ["minutes", "minute", "min", "mins", "m"].contains name then some .minute
  else if ["hours", "hour", "hr", "hrs", "h"].contains name then some .hour
  else if ["days", "day", "d"].contains name then some .day
  else if ["weeks", "week", "wk", "wks", "w"].contains name then some .week
  else if ["months", "month", "M"].contains name then some .month
  else if ["years", "year", "yr", "yrs", "y"].contains name then some .year
  else none

/-- Whole seconds of a unit that is counted in seconds; zero for the smaller ones. -/
def Unit.seconds : Unit → Nat
  | .nanosecond | .microsecond | .millisecond => 0
  | .second => 1
  | .minute => 60
  | .hour => 3600
  | .day => 86400
  | .week => 604800
  | .month => 2630016
  | .year => 31557600

def Unit.nanos : Unit → Nat
  | .nanosecond => 1
  | .microsecond => 1000
  | .millisecond => 1000000
  | _ => 0

/-- What can be wrong with the text of a span. Positions count bytes. -/
inductive Fault
  | empty
  | numberExpected (position : Nat)
  | invalidCharacter (position : Nat)
  | unknownUnit (unit : String) (value : Nat)
  | overflow
  deriving DecidableEq, Repr

def Fault.message : Fault → String
  | .empty => "value was empty"
  | .numberExpected position => "expected number at " ++ toString position
  | .invalidCharacter position => "invalid character at " ++ toString position
  | .unknownUnit "" value =>
    "time unit needed, for example " ++ toString value ++ "sec or " ++ toString value ++ "ms"
  | .unknownUnit unit _ =>
    "unknown time unit " ++ Quoted.encode unit ++ ", supported units: ns, us/µs, ms, sec, min, hours, days, weeks, " ++
      "months, years (and few variations)"
  | .overflow =>
    "number is too large or cannot be represented without a lack of precision (values below 1ns are not supported)"

/-- A number that must stay below `2 ^ 64`. It is irreducible because unfolding a comparison with a number of that size
would count down from it. -/
@[irreducible] def checked (n : Nat) : Except Fault Nat := if n < 0x1_0000_0000_0000_0000 then .ok n else .error .overflow

/-- A fraction `numerator / denominator`. -/
structure Fraction where
  numerator : Nat
  denominator : Nat
  deriving DecidableEq, Repr

def isUnitChar (c : Char) : Bool := ('a' ≤ c && c ≤ 'z') || ('A' ≤ c && c ≤ 'Z') || c == 'µ'

structure Cursor where
  rest : List Char
  position : Nat

def Cursor.behind (c : Char) (rest : List Char) (position : Nat) : Cursor := ⟨rest, position + c.utf8Size⟩

/-- Reads the first digit of a number, if the text has another one; white space stands before it. -/
def firstDigit (start : Nat) : List Char → Nat → Except Fault (Option (Nat × Cursor))
  | [], _ => .ok none
  | c :: rest, position =>
    if isDigit c then .ok (some (digitValue c, .behind c rest position))
    else if isWhite c then firstDigit start rest (position + c.utf8Size)
    else .error (.numberExpected start)

/-- Reads a fraction behind its point, up to the first character of a unit or the end. `start` is the position that is
reported if something else stands there. White space may stand between the digits. -/
def fraction (f : Fraction) (start : Nat) : List Char → Nat → Except Fault (Fraction × Cursor)
  | [], position => if f.denominator = 1 then .error (.invalidCharacter start) else .ok (f, ⟨[], position⟩)
  | c :: rest, position =>
    let next := position + c.utf8Size
    if isDigit c then
      match checked (f.denominator * 10), checked (f.numerator * 10 + digitValue c) with
      | .ok d, .ok n => fraction ⟨n, d⟩ next rest next
      | _, _ => .error .overflow
    else if isWhite c then fraction f next rest next
    else if isUnitChar c then
      if f.denominator = 1 then .error (.invalidCharacter start) else .ok (f, ⟨c :: rest, position⟩)
    else .error (.invalidCharacter start)

/-- Reads the other digits of a number and its fraction, up to the first character of a unit or the end. White space
may stand between the digits. -/
def number (n : Nat) : List Char → Nat → Except Fault (Nat × Option Fraction × Cursor)
  | [], position => .ok (n, none, ⟨[], position⟩)
  | c :: rest, position =>
    let next := position + c.utf8Size
    if isDigit c then
      match checked (n * 10 + digitValue c) with
      | .ok n => number n rest next
      | .error fault => .error fault
    else if isWhite c then number n rest next
    else if isUnitChar c then .ok (n, none, ⟨c :: rest, position⟩)
    else if c == '.' then
      match fraction ⟨0, 1⟩ position rest next with
      | .ok (f, cursor) => .ok (n, some f, cursor)
      | .error fault => .error fault
    else .error (.invalidCharacter position)

/-- The characters of a unit name. It ends before a digit, behind one white character, or with the text. -/
def unitName (seen : List Char) : List Char → Nat → Except Fault (List Char × Cursor)
  | [], position => .ok (seen.reverse, ⟨[], position⟩)
  | c :: rest, position =>
    let next := position + c.utf8Size
    if isDigit c then .ok (seen.reverse, ⟨c :: rest, position⟩)
    else if isWhite c then .ok (seen.reverse, ⟨rest, next⟩)
    else if isUnitChar c then unitName (c :: seen) rest next
    else .error (.invalidCharacter position)

/-- A sum of whole seconds and nanoseconds, kept in the bounds of 64 bits each. -/
def accumulate (total seconds nanos : Nat) : Except Fault Nat := do
  let nanos ← checked (total % Time.second + nanos)
  let seconds ← if nanos > Time.second then checked (seconds + nanos / Time.second) else pure seconds
  let _ ← checked (total / Time.second + seconds)
  let sum := total / Time.second * Time.second + seconds * Time.second +
    (if nanos > Time.second then nanos % Time.second else nanos)
  if sum < 0x1_0000_0000_0000_0000 * Time.second then .ok sum else .error .overflow

/-- A product divided by the denominator of a fraction, with nothing left over. -/
def exactly (n scale denominator : Nat) : Except Fault Nat := do
  let product ← checked (n * scale)
  if product % denominator = 0 then .ok (product / denominator) else .error .overflow

/-- Adds a number of units to a sum of nanoseconds. The fraction has to come out in whole nanoseconds for units up to the
minute, in whole seconds for longer ones. -/
def addUnit (total n : Nat) (f : Option Fraction) (name : List Char) : Except Fault Nat := do
  let name := String.ofList name
  match Unit.ofName? name with
  | none => .error (.unknownUnit name n)
  | some unit =>
    let seconds ← checked (n * unit.seconds)
    let nanos ← checked (n * unit.nanos)
    let total ← accumulate total seconds nanos
    match f with
    | none => .ok total
    | some f =>
      match unit with
      | .nanosecond => .error .overflow
      | .microsecond => do accumulate total 0 (← exactly f.numerator 1000 f.denominator)
      | .millisecond => do accumulate total 0 (← exactly f.numerator 1000000 f.denominator)
      | .second => do accumulate total 0 (← exactly f.numerator 1000000000 f.denominator)
      | .minute => do accumulate total 0 (← exactly f.numerator 60000000000 f.denominator)
      | unit => do accumulate total (← exactly f.numerator unit.seconds f.denominator) 0

/-- Reads numbers with units one after the other; `n` is the first digit of the number at hand. -/
def terms : Nat → (total n : Nat) → Cursor → Except Fault Nat
  | 0, total, _, _ => .ok total
  | fuel + 1, total, n, cursor => do
    let (n, f, cursor) ← number n cursor.rest cursor.position
    let (name, cursor) ← unitName [] cursor.rest cursor.position
    let total ← addUnit total n f name
    match ← firstDigit cursor.position cursor.rest cursor.position with
    | none => .ok total
    | some (n, cursor) => terms fuel total n cursor

/-- The nanoseconds that a text without white space at its ends writes. -/
def readNanos (cs : List Char) : Except Fault Nat := do
  if cs == ['0'] then .ok 0
  else
    match ← firstDigit 0 cs 0 with
    | none => .error .empty
    | some (n, cursor) => terms cs.length 0 n cursor

/-- Reads the text of a span; white space at its ends does not count. -/
def read (s : String) : Except Fault Span :=
  match readNanos (trimChars s.toList) with
  | .error fault => .error fault
  | .ok nanos => if h : nanos < 0x1_0000_0000_0000_0000 * second then .ok ⟨nanos, h⟩ else .error .overflow

/-- A number with a unit whose name has a plural. -/
def longTerm (n : Nat) (name : String) : List String :=
  if n = 0 then [] else [toString n ++ name ++ (if n > 1 then "s" else "")]

/-- A number with a unit whose name has no plural. -/
def shortTerm (n : Nat) (name : String) : List String := if n = 0 then [] else [toString n ++ name]

def write (span : Span) : String :=
  let seconds := span.seconds
  let nanos := span.subNanos
  let years := seconds / 31557600
  let inYear := seconds % 31557600
  let months := inYear / 2630016
  let inMonth := inYear % 2630016
  let days := inMonth / 86400
  let inDay := inMonth % 86400
  let terms := longTerm years "year" ++ longTerm months "month" ++ longTerm days "day" ++
    shortTerm (inDay / 3600) "h" ++ shortTerm (inDay % 3600 / 60) "m" ++ shortTerm (inDay % 60) "s" ++
    shortTerm (nanos / 1000000) "ms" ++ shortTerm (nanos / 1000 % 1000) "us" ++ shortTerm (nanos % 1000) "ns"
  if terms.isEmpty then "0s" else String.intercalate " " terms

end AuthzClient.SpanText
