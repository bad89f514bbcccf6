/-!
# Finite binary64 numbers

The magnitude of a finite number is an integer below `2 ^ 53` times a power of two that is at least
`2 ^ -1074`. Results are computed as exact ratios and rounded once, to the nearest magnitude and to
the even one in a tie.
-/

namespace CloudAccessors

/-- `n / d` rounded to the nearest integer, and to the even one in a tie. -/
def roundToEven (n d : Nat) : Nat :=
  let q := n / d
  let r := n % d
  if 2 * r < d then q else if d < 2 * r then q + 1 else q + q % 2

namespace Binary64

/-- The number `mantissa * 2 ^ exponent`. -/
structure Magnitude where
  mantissa : Nat
  exponent : Int
deriving DecidableEq, Repr

namespace Magnitude

def minExponent : Int := -1074

def maxExponent : Int := 971

def zero : Magnitude := ⟨0, minExponent⟩

def numerator (x : Magnitude) : Nat := x.mantissa <<< x.exponent.toNat

def denominator (x : Magnitude) : Nat := 1 <<< (-x.exponent).toNat

/-- The exponent of the ratio `n / d`: the one that leaves a mantissa of 53 bits, unless it is below
the least one. -/
def exponentOf (n d : Nat) : Int :=
  let bits : Int := n.log2 - d.log2
  let reaches := d <<< bits.toNat ≤ n <<< (-bits).toNat
  max minExponent (if reaches then bits - 52 else bits - 53)

/-- The magnitude nearest to `n / d`, or `none` if it lies beyond the greatest one. -/
def nearest? (n d : Nat) : Option Magnitude :=
  if n = 0 then some zero
  else
    let e := exponentOf n d
    let m := roundToEven (n <<< (-e).toNat) (d <<< e.toNat)
    let x : Magnitude := if m = 1 <<< 53 then ⟨1 <<< 52, e + 1⟩ else ⟨m, e⟩
    if x.exponent ≤ maxExponent then some x else none

def times? (x y : Magnitude) : Option Magnitude :=
  nearest? (x.numerator * y.numerator) (x.denominator * y.denominator)

def over? (x y : Magnitude) : Option Magnitude :=
  nearest? (x.numerator * y.denominator) (x.denominator * y.numerator)

/-- The magnitude nearest to `10 ^ k`. -/
def powerOfTen? (k : Nat) : Option Magnitude := nearest? (Nat.pow 10 k) 1

/-- The greatest power of ten that is a finite number is `10 ^ maxPower`. -/
def maxPower : Nat := 308

/-- `x` divided by `10 ^ k`, each result rounded: by `step`, the greatest power, as often as needed,
and then by what is left. -/
def shiftDown? (step x : Magnitude) (k : Nat) : Option Magnitude :=
  if k ≤ maxPower then (powerOfTen? k).bind x.over?
  else if x.mantissa = 0 then some x
  else
    match x.over? step with
    | none => none
    | some y => shiftDown? step y (k - maxPower)
termination_by k
decreasing_by simp [maxPower] at *; omega

/-- The value of a decimal whose digits make up `significand`: it is rounded to a magnitude, which
is then multiplied or divided by the power of ten. `none` if this goes beyond the greatest one. -/
def ofDecimal? (significand : Nat) (exponent : Int) : Option Magnitude :=
  match nearest? significand 1 with
  | none => none
  | some x =>
    if exponent < 0 then (powerOfTen? maxPower).bind (shiftDown? · x exponent.natAbs)
    else if exponent.natAbs ≤ maxPower then (powerOfTen? exponent.natAbs).bind x.times?
    else if x.mantissa = 0 then some x
    else none

end Magnitude

end Binary64

/-- A finite binary64 number. -/
structure Binary64 where
  negative : Bool
  magnitude : Binary64.Magnitude
deriving DecidableEq, Repr

end CloudAccessors
