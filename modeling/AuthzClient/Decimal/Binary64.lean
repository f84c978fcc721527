/-!
Binary floating-point numbers of 64 bits as exact data: a sign and a 63-bit magnitude whose order is the order of the
absolute values. Every operation is exact arithmetic on naturals followed by one rounding to nearest, ties to even.
-/

namespace AuthzClient.Decimal

/-- A floating-point number. A magnitude from `infinity` upwards stands for infinity or for no number at all. -/
structure Binary64 where
  negative : Bool
  magnitude : Nat
  deriving DecidableEq, Repr, Inhabited

namespace Binary64

def infinity : Nat := 0x7ff0000000000000

/-- The magnitude of the one not-a-number that texts can write. -/
def notANumber : Nat := 0x7ff8000000000000

def zero : Binary64 := ⟨false, 0⟩

def isFinite (x : Binary64) : Bool := x.magnitude < infinity

def toBits (x : Binary64) : Nat := (if x.negative then 0x8000_0000_0000_0000 else 0) + x.magnitude

/-- A finite magnitude as `m * 2 ^ e`. -/
def significand (magnitude : Nat) : Nat × Int :=
  let field : Nat := magnitude / 0x10_0000_0000_0000
  let fraction : Nat := magnitude % 0x10_0000_0000_0000
  if field = 0 then (fraction, -1074) else (fraction + 0x10_0000_0000_0000, (field : Int) - 1075)

/-- `m * 2 ^ e` as a fraction. -/
def scaled (m : Nat) (e : Int) : Nat × Nat :=
  match e with
  | .ofNat k => (m * Nat.pow 2 k, 1)
  | .negSucc k => (m, Nat.pow 2 (k + 1))

/-- The value of a finite magnitude as a fraction. -/
def toRatio (magnitude : Nat) : Nat × Nat :=
  let (m, e) := significand magnitude
  scaled m e

/-- A quotient rounded to the nearest natural, ties to even. -/
def roundDiv (num den : Nat) : Nat :=
  let q := num / den
  let r := num % den
  if 2 * r < den then q else if 2 * r > den then q + 1 else if q % 2 = 0 then q else q + 1

/-- The exponent of the last of the 53 binary places of `num / den`, never below the smallest one there is. -/
def lastPlace (num den : Nat) : Int :=
  let guess : Int := (num.log2 : Int) - (den.log2 : Int)
  let (gn, gd) := scaled den guess
  let top := if num * gd ≥ gn then guess else guess - 1
  max (top - 52) (-1074)

/-- The magnitude nearest to `num / den`, infinity from half a place above the largest finite one. -/
def magnitudeOf (num den : Nat) : Nat :=
  if num = 0 then 0
  else
    let e := lastPlace num den
    let (un, ud) := scaled den e
    let pattern := (e + 1074).toNat * 0x10_0000_0000_0000 + roundDiv (num * ud) un
    if pattern < infinity then pattern else infinity

def ofRatio (negative : Bool) (num den : Nat) : Binary64 := ⟨negative, magnitudeOf num den⟩

def ofNat (n : Nat) : Binary64 := ofRatio false n 1

def mulMagnitude (a b : Nat) : Nat :=
  let (an, ad) := toRatio a
  let (bn, bd) := toRatio b
  magnitudeOf (an * bn) (ad * bd)

/-- Quotient of two finite magnitudes, the divisor not zero, rounded. -/
def divMagnitude (a b : Nat) : Nat :=
  let (an, ad) := toRatio a
  let (bn, bd) := toRatio b
  magnitudeOf (an * bd) (ad * bn)

end Binary64

end AuthzClient.Decimal
