import DeliveryCycle.Number.IntegerText
import DeliveryCycle.Number.Shortest

/-!
# Numbers in decimal texts

A decimal text has digits, with or without a point among them, and may have an exponent that says by
how many places the point moves. `Binary64.ofDecimal` is the number nearest to such a text, and
`Decimal.ofText?` reads one that may have a sign and blanks around it. A decimal text equals an
integer if it is one, or if the number nearest to it is.
-/

namespace DeliveryCycle

def Binary64.ofDecimal (negative : Bool) (digits : Nat) (power : Int) : Binary64 :=
  let point : Int := power + (Number.decimalDigits digits).length
  if digits = 0 || point < -400 then .ofMagnitude negative 0 0
  else if 400 < point then .infinite negative
  else
    let ratio := Number.decimalRatio digits power
    let rounded := Number.roundRatio ratio.1 ratio.2
    .ofMagnitude negative rounded.1 rounded.2

/-- The integer that a number equals, if it equals one. -/
def Binary64.toInt? (value : Binary64) : Option Int :=
  match value with
  | .finite _ mantissa exponent =>
      if mantissa % Number.twoPow (-exponent).toNat = 0 then some value.truncate else none
  | .infinite _ | .notANumber => none

/-- A decimal number: a sign, digits before and behind the point, and an exponent. -/
structure Decimal where
  negative : Bool
  whole : List Char
  fraction : List Char
  /-- Whether there is a point or an exponent. -/
  marked : Bool
  exponent : Int
deriving DecidableEq, Repr

namespace Decimal

/-- The digits behind a point, if there is a point, and what follows them. -/
def splitFraction (text : List Char) : Option (List Char) × List Char :=
  match text with
  | '.' :: rest => (some (rest.takeWhile Char.isDigit), rest.dropWhile Char.isDigit)
  | _ => (none, text)

/-- The exponent that a text consists of; an empty text is none. -/
def exponentOf? (text : List Char) : Option (Option Int) :=
  match text with
  | [] => some none
  | letter :: rest =>
      let (negative, digits) := Number.splitSign rest
      if (letter = 'e' || letter = 'E') && !digits.isEmpty && digits.all Char.isDigit then
        some (some (Number.signedInteger negative (Number.ofCommonDigits digits)))
      else none

/-- Whether a character may stand in front of a number and behind it. -/
def isBlank (character : Char) : Bool :=
  character = ' ' || (9 ≤ character.toNat && character.toNat ≤ 13)

def ofText? (text : List Char) : Option Decimal := do
  let (negative, rest) := Number.splitSign (Text.trimList isBlank text)
  let whole := rest.takeWhile Char.isDigit
  let (fraction, rest) := splitFraction (rest.dropWhile Char.isDigit)
  let exponent ← exponentOf? rest
  if whole.isEmpty && (fraction.getD []).isEmpty then none
  else
    some ⟨negative, whole, fraction.getD [], fraction.isSome || exponent.isSome,
      exponent.getD 0⟩

def toBinary64 (decimal : Decimal) : Binary64 :=
  .ofDecimal decimal.negative (Number.ofCommonDigits (decimal.whole ++ decimal.fraction))
    (decimal.exponent - decimal.fraction.length)

/-- The integer that a decimal number is as it is written, if it has no point and no exponent. -/
def asInteger? (decimal : Decimal) : Option Int :=
  if decimal.marked then none
  else some (Number.signedInteger decimal.negative (Number.ofCommonDigits decimal.whole))

end Decimal

end DeliveryCycle
