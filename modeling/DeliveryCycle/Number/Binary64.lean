import DeliveryCycle.Number.Power
import DeliveryCycle.Text.Quoted

/-!
# Numbers of double precision

Averages, medians and the quotient behind a span in minutes are computed as numbers of double
precision: a sign, a mantissa of at most 53 bits and a power of two that is at least `-1074`.

`roundRatio` is the one rule of rounding. It takes the finest grid `2 ^ e` on which the ratio has
at most 53 bits and rounds to the nearest grid point, a tie going to the even one. All other
definitions read its answer: as an integer (`truncate`), as the 64 bits of the interchange format
(`bits`), or as an exact product (`mul`), which is rounded once more.
-/

namespace DeliveryCycle

namespace Number

/-- The nearest integer to `numerator / denominator`, a tie going to the even neighbour. -/
def roundHalfEven (numerator denominator : Nat) : Nat :=
  let whole := numerator / denominator
  let doubledRest := 2 * (numerator % denominator)
  if doubledRest < denominator then whole
  else if denominator < doubledRest then whole + 1
  else whole + whole % 2

/-- The numerator of a ratio measured in steps of `2 ^ exponent`. -/
def scaledNumerator (numerator : Nat) (exponent : Int) : Nat :=
  numerator * twoPow (-exponent).toNat

/-- The denominator of a ratio measured in steps of `2 ^ exponent`. -/
def scaledDenominator (denominator : Nat) (exponent : Int) : Nat :=
  denominator * twoPow exponent.toNat

/-- Whether the ratio is below `2 ^ 53` steps of `2 ^ exponent`. -/
def fitsGrid (numerator denominator : Nat) (exponent : Int) : Bool :=
  scaledNumerator numerator exponent < twoPow 53 * scaledDenominator denominator exponent

/-- The exponent of the smallest positive number. -/
def leastExponent : Int := -1074

/-- The exponent of the finest grid on which the ratio has at most 53 bits. -/
def gridExponent (numerator denominator : Nat) : Int :=
  let guess : Int := (numerator.log2 : Int) - (denominator.log2 : Int) - 53
  max leastExponent (if fitsGrid numerator denominator guess then guess else guess + 1)

/-- The mantissa and the exponent of the number of double precision nearest to a ratio. -/
def roundRatio (numerator denominator : Nat) : Nat × Int :=
  let exponent := gridExponent numerator denominator
  (roundHalfEven (scaledNumerator numerator exponent) (scaledDenominator denominator exponent),
    exponent)

end Number

/-- A number of double precision; a finite one stands for `± mantissa * 2 ^ exponent`. -/
inductive Binary64 where
  | finite (negative : Bool) (mantissa : Nat) (exponent : Int)
  | infinite (negative : Bool)
  | notANumber
deriving DecidableEq, Repr, Inhabited

namespace Binary64

open Number

/--
The magnitude `mantissa * 2 ^ exponent` with a sign. A mantissa of `2 ^ 53`, which rounding up can
give, moves to the next exponent, and magnitudes from `2 ^ 1024` on are infinite.
-/
def ofMagnitude (negative : Bool) (mantissa : Nat) (exponent : Int) : Binary64 :=
  if mantissa = 0 then .finite negative 0 leastExponent
  else
    let carries := mantissa = twoPow 53
    let exponent := if carries then exponent + 1 else exponent
    if 971 < exponent then .infinite negative
    else .finite negative (if carries then twoPow 52 else mantissa) exponent

/-- The number nearest to `numerator / denominator`. -/
def ofRatio (numerator : Int) (denominator : Nat) : Binary64 :=
  let rounded := roundRatio numerator.natAbs denominator
  ofMagnitude (numerator < 0) rounded.1 rounded.2

def ofInt (value : Int) : Binary64 := ofRatio value 1

/-- The integer part of a number: its fraction is cut off. -/
def truncate : Binary64 → Int
  | .finite negative mantissa exponent =>
      let magnitude : Nat := mantissa * twoPow exponent.toNat / twoPow (-exponent).toNat
      if negative then -magnitude else magnitude
  | .infinite _ | .notANumber => 0

/-- The exact product of two finite numbers, rounded once. -/
def mul : Binary64 → Binary64 → Binary64
  | .finite leftNegative leftMantissa leftExponent,
    .finite rightNegative rightMantissa rightExponent =>
      let exponent := leftExponent + rightExponent
      let rounded := roundRatio (leftMantissa * rightMantissa * twoPow exponent.toNat)
        (twoPow (-exponent).toNat)
      ofMagnitude (leftNegative != rightNegative) rounded.1 rounded.2
  | _, _ => .notANumber

def isFinite : Binary64 → Bool
  | .finite _ _ _ => true
  | .infinite _ | .notANumber => false

/-- The 64 bits of the interchange format: sign, biased exponent, fraction. -/
def bits : Binary64 → Nat
  | .finite negative mantissa exponent =>
      let sign := if negative then twoPow 63 else 0
      if mantissa < twoPow 52 then sign + mantissa
      else sign + (exponent + 1075).toNat * twoPow 52 + (mantissa - twoPow 52)
  | .infinite negative => (if negative then twoPow 63 else 0) + 2047 * twoPow 52
  | .notANumber => 2047 * twoPow 52 + twoPow 51

def hex (value : Binary64) : String := String.ofList (Text.hexDigits 16 value.bits)

end Binary64

end DeliveryCycle
