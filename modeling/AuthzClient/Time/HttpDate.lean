import AuthzClient.Text.Blank
import AuthzClient.Time.Span

/-!
Dates of HTTP in their three forms: with a four-digit year and the zone, with the full name of the day and a two-digit
year, and with the year last. Names are told apart by case, and the day of the week has to be the right one.
-/

namespace AuthzClient.HttpDate

open Time Text

/-- A date and a time of day, the day of the week counted from Monday as 1. -/
structure Date where
  year : Nat
  month : Nat
  day : Nat
  hour : Nat
  minute : Nat
  second : Nat
  weekday : Nat
  deriving DecidableEq, Repr

/-- Days between the epoch and the first day of a year from 1970 on. -/
def daysBeforeYear (year : Nat) : Nat :=
  let y := year - 1
  365 * (year - 1970) + (y / 4 - y / 100 + y / 400) - (1969 / 4 - 1969 / 100 + 1969 / 400)

def isLeap (year : Nat) : Bool := year % 4 == 0 && (year % 100 != 0 || year % 400 == 0)

def daysInMonth (year month : Nat) : Nat :=
  if month = 2 then (if isLeap year then 29 else 28)
  else if month = 4 ∨ month = 6 ∨ month = 9 ∨ month = 11 then 30
  else 31

def daysBeforeMonth (year month : Nat) : Nat :=
  (List.range (month - 1)).foldl (fun days m => days + daysInMonth year (m + 1)) 0

def Date.days (d : Date) : Nat := daysBeforeYear d.year + daysBeforeMonth d.year d.month + (d.day - 1)

/-- A date that exists: every part in its bounds, and the day of the week that this date had. -/
def Date.isValid (d : Date) : Bool :=
  d.second < 60 && d.minute < 60 && d.hour < 24 && 1970 ≤ d.year && d.year ≤ 9999 && 1 ≤ d.month && d.month ≤ 12 &&
    1 ≤ d.day && d.day ≤ daysInMonth d.year d.month && (d.days + 3) % 7 + 1 == d.weekday

def Date.seconds (d : Date) : Nat := d.days * 86400 + d.hour * 3600 + d.minute * 60 + d.second

def month? (a b c : Char) : Option Nat :=
  let found := ["Jan", "Feb", "Mar", "Apr", "May", "Jun", "Jul", "Aug", "Sep", "Oct", "Nov", "Dec"].findIdx
    (· == String.ofList [a, b, c])
  if found < 12 then some (found + 1) else none

def weekday? (a b c : Char) : Option Nat :=
  let found := ["Mon", "Tue", "Wed", "Thu", "Fri", "Sat", "Sun"].findIdx (· == String.ofList [a, b, c])
  if found < 7 then some (found + 1) else none

/-- The number of a day of the week whose full name the text begins with, and what follows it. -/
def fullWeekday? (cs : List Char) : Option (Nat × List Char) :=
  let name := cs.takeWhile (· != ',')
  let found := ["Monday", "Tuesday", "Wednesday", "Thursday", "Friday", "Saturday", "Sunday"].findIdx
    (· == String.ofList name)
  if found < 7 then some (found + 1, cs.drop name.length) else none

/-- The number that digits write, if they all are digits. -/
def number? (cs : List Char) : Option Nat := if cs.all isDigit then some (digitsValue cs) else none

/-- `Sun, 06 Nov 1994 08:49:37 GMT` -/
def fixedForm? : List Char → Option Date
  | [w1, w2, w3, ',', ' ', d1, d2, ' ', m1, m2, m3, ' ', y1, y2, y3, y4, ' ', h1, h2, ':', n1, n2, ':', s1, s2,
      ' ', 'G', 'M', 'T'] => do
    return { weekday := ← weekday? w1 w2 w3, day := ← number? [d1, d2], month := ← month? m1 m2 m3,
             year := ← number? [y1, y2, y3, y4], hour := ← number? [h1, h2], minute := ← number? [n1, n2],
             second := ← number? [s1, s2] }
  | _ => none

/-- `Sunday, 06-Nov-94 08:49:37 GMT`; years from 70 on belong to the twentieth century. Any ASCII character may stand
between the year and the hour. -/
def shortYearForm? (cs : List Char) : Option Date := do
  let (weekday, rest) ← fullWeekday? cs
  match rest with
  | [',', ' ', d1, d2, '-', m1, m2, m3, '-', y1, y2, gap, h1, h2, ':', n1, n2, ':', s1, s2, ' ', 'G', 'M', 'T'] =>
    guard (gap.toNat < 0x80)
    let year ← number? [y1, y2]
    return { weekday := weekday, day := ← number? [d1, d2], month := ← month? m1 m2 m3,
             year := if year < 70 then year + 2000 else year + 1900, hour := ← number? [h1, h2],
             minute := ← number? [n1, n2], second := ← number? [s1, s2] }
  | _ => none

/-- `Sun Nov  6 08:49:37 1994` -/
def yearLastForm? : List Char → Option Date
  | [w1, w2, w3, ' ', m1, m2, m3, ' ', d1, d2, ' ', h1, h2, ':', n1, n2, ':', s1, s2, ' ', y1, y2, y3, y4] => do
    return { weekday := ← weekday? w1 w2 w3, month := ← month? m1 m2 m3,
             day := ← if d1 == ' ' then number? [d2] else number? [d1, d2], hour := ← number? [h1, h2],
             minute := ← number? [n1, n2], second := ← number? [s1, s2], year := ← number? [y1, y2, y3, y4] }
  | _ => none

/-- The date that a text writes in the first of the three forms that fits. -/
def parseDate? (cs : List Char) : Option Date :=
  (fixedForm? cs <|> shortYearForm? cs <|> yearLastForm? cs).filter Date.isValid

/-- The nanoseconds between the epoch and the date that a text writes. -/
def parse? (cs : List Char) : Option Nat := (parseDate? cs).map fun d => d.seconds * Time.second

end AuthzClient.HttpDate
