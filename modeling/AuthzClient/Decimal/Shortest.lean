import AuthzClient.Decimal.Binary64

/-!
The shortest decimal text of a floating-point number: the fewest digits that read back as the same number, and of
those the ones nearest to it. A `Layout` says where positional notation ends and how an exponent is written.
-/

namespace AuthzClient.Decimal

/-- Decimal digits with a point: `0.d₁d₂… * 10 ^ point`. -/
structure Digits where
  digits : List Char
  point : Int
  deriving Repr

/-- The number of digits before the point of `num / den`; zero or less for a value below one tenth, counting the zeros
behind the point. -/
def pointOf (num den : Nat) : Int :=
  let whole := num / den
  if whole ≠ 0 then (Nat.toDigits 10 whole).length else go 400 num 0
where
  /-- Multiplies by ten until the value reaches one tenth. -/
  go : Nat → Nat → Int → Int
    | 0, _, p => p
    | fuel + 1, n, p => if n * 10 ≥ den then p else go fuel (n * 10) (p - 1)

/-- `10 ^ k` as a fraction. -/
def powerOfTen (k : Int) : Nat × Nat :=
  match k with
  | .ofNat n => (Nat.pow 10 n, 1)
  | .negSucc n => (1, Nat.pow 10 (n + 1))

/-- The interval of values that round to a finite magnitude, scaled by `4 * 2 ^ e`: lower end, value, upper end. -/
def neighbourhood (magnitude : Nat) : Nat × Nat × Nat × Int :=
  let (m, e) := Binary64.significand magnitude
  let lower :=
    if magnitude % 0x10_0000_0000_0000 = 0 ∧ magnitude / 0x10_0000_0000_0000 > 1 then 4 * m - 1 else 4 * m - 2
  (lower, 4 * m, 4 * m + 2, e - 2)

/-- The multiples of one decimal place that stand next to the value and round to it; of two the nearer, the even one
if they are equally near. -/
def onGrid? (magnitude : Nat) (place : Int) : Option Nat :=
  let (lower, value, upper, e) := neighbourhood magnitude
  let (sn, sd) := Binary64.scaled 1 e
  let (gn, gd) := powerOfTen place
  let unit := gn * sd
  let low := lower * sn * gd
  let mid := value * sn * gd
  let high := upper * sn * gd
  let closed := (value / 4) % 2 = 0
  let inside (d : Nat) : Bool :=
    if closed then low ≤ d * unit && d * unit ≤ high else low < d * unit && d * unit < high
  let below := mid / unit
  match inside below, inside (below + 1) with
  | false, false => none
  | true, false => some below
  | false, true => some (below + 1)
  | true, true =>
    let down := mid - below * unit
    let up := (below + 1) * unit - mid
    if down < up then some below else if up < down then some (below + 1)
    else if below % 2 = 0 then some below else some (below + 1)

/-- Looks for a hit with `count` digits, then with one more, as long as there is fuel. -/
def firstHit (magnitude : Nat) (point : Int) : Nat → Nat → Nat × Int
  | 0, count => ((onGrid? magnitude (point - count)).getD 0, point - count)
  | fuel + 1, count =>
    match onGrid? magnitude (point - count) with
    | some d => (d, point - count)
    | none => firstHit magnitude point fuel (count + 1)

/-- The shortest digits of a finite magnitude other than zero. -/
def shortest (magnitude : Nat) : Digits :=
  let (num, den) := Binary64.toRatio magnitude
  let (d, place) := firstHit magnitude (pointOf num den) 20 1
  let text := Nat.toDigits 10 d
  let trimmed := (text.reverse.dropWhile (· == '0')).reverse
  ⟨trimmed, place + text.length⟩

structure Layout where
  /-- The least exponent of the first digit that is written positionally. -/
  least : Int
  /-- The least exponent of the first digit, above `least`, that is not. -/
  most : Int
  /-- Whether a positive exponent has a sign. -/
  plus : Bool

/-- Numbers in JSON texts: positional from `1e-5` up to, but not including, `1e16`. -/
def jsonLayout : Layout := ⟨-5, 16, true⟩

/-- Numbers in diagnostic texts: positional from `1e-4` up to, but not including, `1e16`. -/
def diagnosticLayout : Layout := ⟨-4, 16, false⟩

/-- Digits in a layout. Positional texts have a digit on either side of the point. -/
def Digits.render (layout : Layout) (d : Digits) : List Char :=
  let exponent := d.point - 1
  if layout.least ≤ exponent ∧ exponent < layout.most then
    match d.point with
    | .ofNat p =>
      let whole := d.digits.take p
      let rest := d.digits.drop p
      (if p = 0 then ['0'] else whole ++ List.replicate (p - whole.length) '0') ++ '.' ::
        (if rest.isEmpty then ['0'] else rest)
    | .negSucc z => '0' :: '.' :: List.replicate (z + 1) '0' ++ d.digits
  else
    let mantissa := match d.digits with
      | [] => ['0']
      | [c] => [c]
      | c :: cs => c :: '.' :: cs
    let tail := match exponent with
      | .ofNat e => (if layout.plus then ['+'] else []) ++ Nat.toDigits 10 e
      | .negSucc e => '-' :: Nat.toDigits 10 (e + 1)
    mantissa ++ 'e' :: tail

def Binary64.render (layout : Layout) (x : Binary64) : String :=
  let sign := if x.negative then "-" else ""
  if x.magnitude = 0 then sign ++ "0.0"
  else if x.magnitude < infinity then sign ++ String.ofList ((shortest x.magnitude).render layout)
  else if x.magnitude = infinity then sign ++ "inf"
  else "NaN"

end AuthzClient.Decimal
