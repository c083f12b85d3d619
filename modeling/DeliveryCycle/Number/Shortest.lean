import DeliveryCycle.Number.Binary64

/-!
# Shortest decimal text of a number

A number of double precision is written with the fewest decimal digits that read back as the same
number. Of two such digit strings the nearer to the number is taken, and of two equally near ones
the even one. Powers of ten from `-4` to `15` are written positionally, all others with an
exponent.
-/

namespace DeliveryCycle

namespace Number

def decimalDigits (value : Nat) : List Char := Nat.toDigits 10 value

/-- The ratio `value * 10 ^ power` as numerator and denominator. -/
def decimalRatio (value : Nat) (power : Int) : Nat × Nat :=
  (value * tenPow power.toNat, tenPow (-power).toNat)

/-- The least `point` with `numerator / denominator < 10 ^ point`, searched downwards from zero. -/
def pointBelow (numerator denominator : Nat) : (fuel : Nat) → Int
  | 0 => 0
  | fuel + 1 =>
      if numerator * 10 < denominator then pointBelow (numerator * 10) denominator fuel - 1 else 0

/-- The least `point` with `numerator / denominator < 10 ^ point`. -/
def decimalPoint (numerator denominator : Nat) : Int :=
  if denominator ≤ numerator then (decimalDigits (numerator / denominator)).length
  else pointBelow numerator denominator 330

/-- The digits of a positive number with `count` digits that read back as it, and their power. -/
def digitsWith? (mantissa : Nat) (exponent : Int) (count : Nat) : Option (Nat × Int) :=
  let numerator := mantissa * twoPow exponent.toNat
  let denominator := twoPow (-exponent).toNat
  let power := decimalPoint numerator denominator - count
  let steps := numerator * tenPow (-power).toNat
  let unit := denominator * tenPow power.toNat
  let readsBack (digits : Nat) : Bool :=
    let ratio := decimalRatio digits power
    Binary64.ofRatio ratio.1 ratio.2 = .finite false mantissa exponent
  let nearest := roundHalfEven steps unit
  let below := steps / unit
  ([nearest, below, below + 1].find? readsBack).map (·, power)

/-- The fewest digits, at most seventeen, that read back as a positive number. -/
def shortestDigits (mantissa : Nat) (exponent : Int) : Nat × Int :=
  ((List.range 17).findSome? fun count => digitsWith? mantissa exponent (count + 1)).getD
    (mantissa, exponent)

/-- The digits without the zeros at their end, as text. -/
def significantDigits (digits : Nat) : List Char :=
  ((decimalDigits digits).reverse.dropWhile (· = '0')).reverse

/-- A power of ten as it stands behind the letter of the exponent: sign and two digits at least. -/
def exponentText (power : Int) : List Char :=
  let digits := decimalDigits power.natAbs
  (if power < 0 then '-' else '+') :: (if digits.length < 2 then '0' :: digits else digits)

/-- Digits whose first one counts `10 ^ (point - 1)`, written positionally or with an exponent. -/
def decimalText (digits : List Char) (point : Int) : List Char :=
  if -4 < point && point ≤ 16 then
    if point ≤ 0 then '0' :: '.' :: (List.replicate (-point).toNat '0' ++ digits)
    else
      let width := point.toNat
      let padded := digits ++ List.replicate (width - digits.length) '0'
      let fraction := padded.drop width
      padded.take width ++ '.' :: (if fraction.isEmpty then ['0'] else fraction)
  else
    let mantissa := match digits with
      | [single] => [single]
      | first :: others => first :: '.' :: others
      | [] => ['0']
    mantissa ++ 'e' :: exponentText (point - 1)

end Number

open Number in
/-- The shortest decimal text that reads back as the number. -/
def Binary64.text (value : Binary64) : String :=
  match value with
  | .finite negative mantissa exponent =>
      let magnitude :=
        if mantissa = 0 then "0.0".toList
        else
          let shortest := shortestDigits mantissa exponent
          let digits := decimalDigits shortest.1
          decimalText (significantDigits shortest.1) (digits.length + shortest.2)
      String.ofList (if negative then '-' :: magnitude else magnitude)
  | .infinite negative => if negative then "-inf" else "inf"
  | .notANumber => "nan"

end DeliveryCycle
