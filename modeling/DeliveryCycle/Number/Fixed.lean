import DeliveryCycle.Number.Shortest

/-!
# Decimal text with a given number of digits

A number of double precision is written with as many digits as asked for, rounded from its exact
value, a tie going to the even neighbour. `positionalText` counts the digits behind the point,
`scientificText` those of the mantissa behind its first one, and `generalText` all significant ones;
the last drops zeros at the end and takes the shorter one of the two notations.
-/

namespace DeliveryCycle

namespace Number

/-- Digits with a point in front of the last `places` of them; a point at the end is optional. -/
def withPoint (digits : List Char) (places : Nat) (keepsPoint : Bool) : List Char :=
  let padded := List.replicate (places + 1 - digits.length) '0' ++ digits
  let whole := padded.take (padded.length - places)
  if places = 0 then if keepsPoint then whole ++ ['.'] else whole
  else whole ++ '.' :: padded.drop (padded.length - places)

/-- A ratio with `places` digits behind the point. -/
def positionalText (numerator denominator places : Nat) (keepsPoint : Bool) : List Char :=
  withPoint (decimalDigits (roundHalfEven (numerator * tenPow places) denominator)) places
    keepsPoint

/-- The nearest `count` digits of a ratio above zero, and the power of ten of the last one. -/
def nearestDigits (numerator denominator count : Nat) : Nat × Int :=
  let power := decimalPoint numerator denominator - count
  let digits := roundHalfEven (numerator * tenPow (-power).toNat) (denominator * tenPow power.toNat)
  if digits = tenPow count then (tenPow (count - 1), power + 1) else (digits, power)

/-- The nearest `count` digits of a ratio, and the power of ten of the first one. -/
def leadingDigits (numerator denominator count : Nat) : List Char × Int :=
  if numerator = 0 then (List.replicate count '0', 0)
  else
    let (digits, power) := nearestDigits numerator denominator count
    (decimalDigits digits, power + count - 1)

/-- A ratio with `places` digits behind the first one, and its power of ten. -/
def scientificText (numerator denominator places : Nat) (keepsPoint : Bool) : List Char :=
  let (digits, power) := leadingDigits numerator denominator (places + 1)
  withPoint digits places keepsPoint ++ 'e' :: exponentText power

/-- Digits without the zeros at the end that stand behind a point, and without a bare point. -/
def dropTrailingZeros (text : List Char) : List Char :=
  if text.contains '.' then
    let rest := text.reverse.dropWhile (· = '0')
    (if rest.head? = some '.' then rest.drop 1 else rest).reverse
  else text

/-- A ratio with `count` significant digits in the notation that suits its size. -/
def generalText (numerator denominator count : Nat) (keepsZeros : Bool) : List Char :=
  let count := max count 1
  let (digits, power) := leadingDigits numerator denominator count
  let trimmed (text : List Char) : List Char := if keepsZeros then text else dropTrailingZeros text
  if power < -4 || (count : Int) ≤ power then
    trimmed (withPoint digits (count - 1) keepsZeros) ++ 'e' :: exponentText power
  else trimmed (withPoint digits (count - 1 - power).toNat keepsZeros)

inductive DigitStyle where
  | positional
  | scientific
  | general
deriving DecidableEq, Repr

def DigitStyle.text (style : DigitStyle) (numerator denominator digits : Nat) (full : Bool) :
    List Char :=
  match style with
  | .positional => positionalText numerator denominator digits full
  | .scientific => scientificText numerator denominator digits full
  | .general => generalText numerator denominator digits full

end Number

open Number in
/-- A number in a style; `full` keeps a point at the end and zeros behind a point. -/
def Binary64.textIn (style : DigitStyle) (digits : Nat) (full : Bool) : Binary64 → List Char
  | .finite negative mantissa exponent =>
      let text :=
        style.text (mantissa * twoPow exponent.toNat) (twoPow (-exponent).toNat) digits full
      if negative then '-' :: text else text
  | .infinite negative => if negative then "-inf".toList else "inf".toList
  | .notANumber => "nan".toList

end DeliveryCycle
