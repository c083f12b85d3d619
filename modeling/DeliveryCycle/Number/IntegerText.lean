import DeliveryCycle.Text.Blank
import DeliveryCycle.Text.Digit

/-!
# Reading integers

Two readers of integers stand side by side. A setting is read by `settingInteger`: spacing around
the number, one sign, decimal digits of any script and single underscores between digits.

A parameter of a request is read by `parameterInteger`. It is tried first as it stands, as digits
`0` to `9` without a zero in front, with or without a minus. A text that is none of these is
cleaned and then tried again: spacing, a sign, zeros in front, a fraction of zeros and single
underscores are dropped, in this order. Zeros in front may have underscores among them, and a
minus may follow them.

Both readers refuse a number with too many digits, whatever follows its digits. A parameter that has
to be cleaned first and then has too many digits is refused as no integer at all.
-/

namespace DeliveryCycle.Number

def ofDigits (digits : List Nat) : Nat := digits.foldl (fun value digit => 10 * value + digit) 0

/-- The greatest number of digits of an integer that is read from a text. -/
def greatestDigitCount : Nat := 4300

inductive IntegerError where
  | malformed
  | tooManyDigits (count : Nat)
deriving DecidableEq, Repr

def tooManyDigitsMessage (count : Nat) : String :=
  s!"Exceeds the limit ({greatestDigitCount} digits) for integer string conversion: " ++
    s!"value has {count} digits; use sys.set_int_max_str_digits() to increase the limit"

def signedInteger (negative : Bool) (magnitude : Nat) : Int :=
  if negative then -(magnitude : Int) else magnitude

/-- A sign, if there is one, and what follows it. -/
def splitSign : List Char → Bool × List Char
  | '-' :: rest => (true, rest)
  | '+' :: rest => (false, rest)
  | characters => (false, characters)

section Setting

/-- Whether every underscore stands between two characters other than underscores. -/
def isGrouped (characters : List Char) : Bool :=
  match characters with
  | [] => true
  | ['_'] => false
  | '_' :: _ => false
  | [_] => true
  | _ :: '_' :: rest => !rest.isEmpty && isGrouped rest
  | _ :: rest => isGrouped rest

/-- Whether a character is a digit of any script or an underscore. -/
def isDigitOrUnderscore (character : Char) : Bool :=
  character = '_' || (Text.digitValue? character).isSome

def settingInteger (text : String) : Except IntegerError Int :=
  let (negative, rest) := splitSign (Text.trimList Text.isSpacing text.toList)
  let number := rest.takeWhile isDigitOrUnderscore
  let digits := number.filterMap Text.digitValue?
  if digits.isEmpty || !isGrouped number then .error .malformed
  else if greatestDigitCount < digits.length then .error (.tooManyDigits digits.length)
  else if (rest.dropWhile isDigitOrUnderscore).isEmpty then
    .ok (signedInteger negative (ofDigits digits))
  else .error .malformed

end Setting

section Parameter

/-- The value of one of the digits `0` to `9`. -/
def commonDigitValue? (character : Char) : Option Nat :=
  if character.isDigit then some (character.toNat - 48) else none

/-- The value of digits `0` to `9`. -/
def ofCommonDigits (digits : List Char) : Nat := ofDigits (digits.filterMap commonDigitValue?)

/-- The integer that a text stands for as it is, without anything around its digits. -/
def plainInteger (text : List Char) : Except IntegerError Int :=
  let (negative, rest) := match text with
    | '-' :: rest => (true, rest)
    | _ => (false, text)
  match rest with
  | ['0'] => .ok 0
  | '0' :: _ => .error .malformed
  | _ =>
      let digits := rest.takeWhile Char.isDigit
      if greatestDigitCount < digits.length then .error (.tooManyDigits digits.length)
      else if digits.isEmpty || digits.length < rest.length then .error .malformed
      else .ok (signedInteger negative (ofCommonDigits digits))

/-- The text behind zeros and underscores; its last zero stays in front of a point or an end. -/
def dropZeros? : (last : Char) → List Char → Option (List Char)
  | last, [] => some [last]
  | last, '.' :: rest => some (last :: '.' :: rest)
  | _, '0' :: rest => dropZeros? '0' rest
  | _, '_' :: rest => dropZeros? '_' rest
  | _, character :: rest =>
      if character.isDigit || character = '-' then some (character :: rest) else none

/-- The text without zeros in front; it has to begin with a digit or a minus. -/
def dropLeadingZeros? : List Char → Option (List Char)
  | '0' :: rest => dropZeros? '0' rest
  | character :: rest =>
      if character.isDigit || character = '-' then some (character :: rest) else none
  | [] => none

/-- The part in front of a point that at least one zero and nothing else follows. -/
def dropZeroFraction (text : List Char) : List Char :=
  match text.dropWhile (· ≠ '.') with
  | '.' :: '0' :: rest => if rest.all (· = '0') then text.takeWhile (· ≠ '.') else text
  | _ => text

def dropUnderscores (text : List Char) : List Char :=
  if isGrouped text then text.filter (· ≠ '_') else text

def beginsWithSign (text : List Char) : Bool := text.head? = some '-' || text.head? = some '+'

/-- What is left of a text once all that a parameter may have besides its digits is dropped. -/
def cleanedParameter? (text : List Char) : Option (List Char) :=
  let (negative, rest) := splitSign (Text.trimList Text.isSpacing text)
  if beginsWithSign rest then none
  else
    (dropLeadingZeros? rest).map fun rest =>
      let number := dropUnderscores (dropZeroFraction rest)
      if negative then '-' :: number else number

/-- The integer that the text of a request's parameter stands for. -/
def parameterInteger (text : String) : Except IntegerError Int :=
  match plainInteger text.toList with
  | .error .malformed =>
      match cleanedParameter? text.toList with
      | none => .error .malformed
      | some cleaned => (plainInteger cleaned).mapError fun _ => .malformed
  | result => result

end Parameter

end DeliveryCycle.Number
