import CloudAccessors.Binary64.Basic

/-!
# The shortest decimal of a binary64 number

Of all decimals that round to a number, the one with the fewest digits is written, and of several
such the one nearest to the number. On a grid of decimals `d * 10 ^ q` only the two neighbours of
the number need to be looked at, and the coarsest grid with a hit gives the digits.
-/

namespace CloudAccessors.Binary64

/-- The decimal `digits * 10 ^ exponent`. -/
structure Decimal where
  digits : Nat
  exponent : Int
deriving DecidableEq, Repr

namespace Magnitude

/-- Does `d * 10 ^ q` round to `x`? The numbers that do lie between the midpoints to the two
neighbours of `x`, and the midpoints count if the mantissa is even. -/
def isRoundedFrom (x : Magnitude) (d : Nat) (q : Int) : Bool :=
  let unit : Magnitude := ⟨1, x.exponent - 2⟩
  let scale := unit.numerator * Nat.pow 10 (-q).toNat
  let point := d * Nat.pow 10 q.toNat * unit.denominator
  let gap := if x.mantissa = 1 <<< 52 ∧ minExponent < x.exponent then 1 else 2
  let low := (4 * x.mantissa - gap) * scale
  let high := (4 * x.mantissa + 2) * scale
  if x.mantissa % 2 = 0 then low ≤ point && point ≤ high else low < point && point < high

/-- The decimal nearest to `x` on the grid of `10 ^ q`, of those that round to `x`. -/
def onGrid? (x : Magnitude) (q : Int) : Option Decimal :=
  let n := x.numerator * Nat.pow 10 (-q).toNat
  let d := x.denominator * Nat.pow 10 q.toNat
  let below := n / d
  match x.isRoundedFrom below q, x.isRoundedFrom (below + 1) q with
  | true, true => some ⟨roundToEven n d, q⟩
  | true, false => some ⟨below, q⟩
  | false, true => some ⟨below + 1, q⟩
  | false, false => none

/-- The first hit on the grids of `10 ^ q`, `10 ^ (q - 1)` and so on, `count` of them. -/
def firstHit? (x : Magnitude) (q : Int) : (count : Nat) → Option Decimal
  | 0 => none
  | count + 1 => (x.onGrid? q).orElse fun _ => x.firstHit? (q - 1) count

/-- An exponent of ten that is greater than that of `x`. -/
def decimalBound (x : Magnitude) : Int := (x.exponent + x.mantissa.log2 + 1) * 30103 / 100000 + 1

/-- The shortest decimal of `x`; one of the grids down to 17 digits always has a hit. -/
def shortest (x : Magnitude) : Decimal :=
  if x.mantissa = 0 then ⟨0, 0⟩ else (x.firstHit? x.decimalBound 20).getD ⟨0, 0⟩

end Magnitude

/-- The digits of `digits` without trailing zeros, most significant first, and the exponent of ten
of the first digit. -/
def Decimal.scientific (x : Decimal) : List Char × Int :=
  let all := (Nat.repr x.digits).toList
  let kept := (all.reverse.dropWhile (· = '0')).reverse
  (if kept.isEmpty then ['0'] else kept, if kept.isEmpty then 0 else x.exponent + (all.length - 1))

/-- Numbers whose first digit stands for a power of ten in this range are written without an
exponent. -/
def positional (exponent : Int) : Bool := -5 ≤ exponent && exponent ≤ 15

/-- The digits around a decimal point, with at least one on both sides. -/
def positionalText (digits : List Char) (exponent : Int) : List Char :=
  if exponent < 0 then
    "0.".toList ++ List.replicate ((-exponent).toNat - 1) '0' ++ digits
  else
    let whole := exponent.toNat + 1
    let fraction := digits.drop whole
    digits.take whole ++ List.replicate (whole - digits.length) '0' ++ ['.'] ++
      if fraction.isEmpty then ['0'] else fraction

/-- One digit in front of the decimal point, and the exponent with its sign. -/
def exponentText (digits : List Char) (exponent : Int) : List Char :=
  let fraction := digits.drop 1
  digits.take 1 ++ (if fraction.isEmpty then [] else '.' :: fraction) ++
    (if exponent < 0 then "e-" else "e+").toList ++ (Nat.repr exponent.natAbs).toList

/-- The shortest text that reads back as `x`. -/
def text (x : Binary64) : List Char :=
  let (digits, exponent) := x.magnitude.shortest.scientific
  (if x.negative then ['-'] else []) ++
    if positional exponent then positionalText digits exponent else exponentText digits exponent

end CloudAccessors.Binary64
