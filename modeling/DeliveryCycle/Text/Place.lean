import DeliveryCycle.Json.Display
import DeliveryCycle.Number.Fixed

/-!
# Places for arguments in a message

A place says how an argument is written: a letter for the kind of text, and in front of it flags,
a least width and a precision. `Place.write` writes an argument at a place: `s`, `r` and `a` write
any value, `d`, `i` and `u` whole numbers, `x`, `X` and `o` whole numbers in base sixteen and
eight, `e`, `f` and `g` numbers of double precision, `c` a single character.
-/

namespace DeliveryCycle.Text

inductive TemplateError where
  | tooFewArguments
  | tooManyArguments
  | namesRequired
  | unknownName (name : String)
  | openName
  | openPlace
  | unknownPlace (letter : Char) (index : Nat)
  | starWantsInteger
  | starTooLarge (native : String)
  | widthTooLarge
  | precisionTooLarge
  | digitsTooMany
  | realRequired (letter : Char) (kind : String)
  | integerRequired (letter : Char) (kind : String)
  | numberRequired (kind : String)
  | characterRequired
  | noCharacter
  | integerTooLarge
  | notANumber
  | infinite
deriving DecidableEq, Repr

def TemplateError.message : TemplateError → String
  | .tooFewArguments => "not enough arguments for format string"
  | .tooManyArguments => "not all arguments converted during string formatting"
  | .namesRequired => "format requires a mapping"
  | .unknownName name => quoted name
  | .openName => "incomplete format key"
  | .openPlace => "incomplete format"
  | .unknownPlace letter index =>
      let shown := if 31 ≤ letter.toNat && letter.toNat ≤ 126 then letter else '?'
      let code := String.ofList (Nat.toDigits 16 letter.toNat)
      s!"unsupported format character '{shown}' (0x{code}) at index {index}"
  | .starWantsInteger => "* wants int"
  | .starTooLarge native => s!"Python int too large to convert to C {native}"
  | .widthTooLarge => "width too big"
  | .precisionTooLarge => "precision too big"
  | .digitsTooMany => "precision too large"
  | .realRequired letter kind =>
      s!"%{letter} format: a real number is required, not {kind}"
  | .integerRequired letter kind =>
      s!"%{letter} format: an integer is required, not {kind}"
  | .numberRequired kind => s!"must be real number, not {kind}"
  | .characterRequired => "%c requires int or char"
  | .noCharacter => "%c arg not in range(0x110000)"
  | .integerTooLarge => "int too large to convert to float"
  | .notANumber => "cannot convert float NaN to integer"
  | .infinite => "cannot convert float infinity to integer"

/-- A place for an argument, without its letter. -/
structure Place where
  /-- Whether the text stands at the left end of its width. -/
  left : Bool
  /-- Whether a number that is not negative gets a plus. -/
  plus : Bool
  /-- Whether a number that is not negative gets a blank. -/
  blank : Bool
  /-- Whether a number shows its base, its point or its zeros in any case. -/
  full : Bool
  /-- Whether zeros fill the width of a number. -/
  zeros : Bool
  width : Nat
  precision : Option Nat
deriving DecidableEq, Repr, Inhabited

def wholeNumber (letter : Char) : Json → Except TemplateError Int
  | .int value => .ok value
  | .bool value => .ok (if value then 1 else 0)
  | .real (.infinite _) => .error .infinite
  | .real .notANumber => .error .notANumber
  | .real value => .ok value.truncate
  | value => .error (.realRequired letter value.kindName)

def integerArgument (letter : Char) : Json → Except TemplateError Int
  | .int value => .ok value
  | .bool value => .ok (if value then 1 else 0)
  | value => .error (.integerRequired letter value.kindName)

def realArgument : Json → Except TemplateError Binary64
  | .real value => .ok value
  | .bool value => .ok (.ofInt (if value then 1 else 0))
  | .int value =>
      match Binary64.ofInt value with
      | .infinite _ => .error .integerTooLarge
      | number => .ok number
  | value => .error (.numberRequired value.kindName)

/-- The code that stands for an argument as a character. -/
def characterArgument : Json → Except TemplateError Nat
  | .string text =>
      match text.toList with
      | [character] => .ok character.toNat
      | _ => .error .characterRequired
  | .unpaired [code] => .ok code
  | .int code =>
      if 0 ≤ code && code < 0x110000 then .ok code.toNat else .error .noCharacter
  | .bool value => .ok (if value then 1 else 0)
  | _ => .error .characterRequired

/-- A text in which the characters outside ASCII are escaped. -/
def asciiOnly (text : List Char) : List Char :=
  text.flatMap fun character =>
    if character.toNat < 0x80 then [character] else escapedChar character

/-- The greatest precision of a whole number. -/
def greatestDigitPrecision : Nat := 2147483644

namespace Place

/-- What stands between the sign and the digits of a number that shows its base. -/
def baseMark (place : Place) (letter : Char) : List Char :=
  if place.full && (letter = 'x' || letter = 'X' || letter = 'o') then ['0', letter] else []

def signOf (place : Place) (negative : Bool) : List Char :=
  if negative then ['-'] else if place.plus then ['+'] else if place.blank then [' '] else []

/-- A text filled up to the width with blanks. -/
def fillText {α : Type} (place : Place) (blank : α) (text : List α) : List α :=
  let gap := List.replicate (place.width - text.length) blank
  if place.left then text ++ gap else gap ++ text

/-- A number filled up to the width, with zeros behind the sign or with blanks around it. -/
def fillNumber (place : Place) (sign digits : List Char) : List Char :=
  let zeros := List.replicate (place.width - (sign.length + digits.length)) '0'
  if place.zeros && !place.left then sign ++ (zeros ++ digits)
  else place.fillText ' ' (sign ++ digits)

/-- A whole number in a base, with as many digits as the precision asks for. -/
def writeInteger (place : Place) (letter : Char) (base : Nat) (value : Int) :
    Except TemplateError (List Char) :=
  let precision := place.precision.getD 0
  if greatestDigitPrecision < precision then .error .digitsTooMany
  else
    let digits := Nat.toDigits base value.natAbs
    let padded := List.replicate (precision - digits.length) '0' ++ digits
    let cased := if letter = 'X' then padded.map Char.toUpper else padded
    .ok (place.fillNumber (place.signOf (value < 0) ++ place.baseMark letter) cased)

/-- A number of double precision; in capital letters for a capital letter. -/
def writeReal (place : Place) (letter : Char) (style : Number.DigitStyle) (value : Binary64) :
    List Char :=
  let text := value.textIn style (place.precision.getD 6) place.full
  let cased := if letter.isUpper then text.map Char.toUpper else text
  match cased with
  | '-' :: digits => place.fillNumber (place.signOf true) digits
  | digits => place.fillNumber (place.signOf false) digits

/-- A text at a place, cut off at the precision and filled up to the width. -/
def writeText (place : Place) (text : List Nat) : List Nat :=
  place.fillText ' '.toNat (match place.precision with
    | some length => text.take length
    | none => text)

/-- An argument at a place with a letter, in codes; `index` is where the letter stands. -/
def write (place : Place) (letter : Char) (index : Nat) (argument : Json) :
    Except TemplateError (List Nat) :=
  let number (written : Except TemplateError (List Char)) : Except TemplateError (List Nat) :=
    written.map (·.map Char.toNat)
  match letter with
  | 's' => .ok (place.writeText argument.displayCodes)
  | 'r' => .ok (place.writeText (argument.inner.map Char.toNat))
  | 'a' => .ok (place.writeText ((asciiOnly argument.inner).map Char.toNat))
  | 'd' | 'i' | 'u' => number do place.writeInteger letter 10 (← wholeNumber letter argument)
  | 'x' | 'X' => number do place.writeInteger letter 16 (← integerArgument letter argument)
  | 'o' => number do place.writeInteger letter 8 (← integerArgument letter argument)
  | 'e' | 'E' => number do return place.writeReal letter .scientific (← realArgument argument)
  | 'f' | 'F' => number do return place.writeReal letter .positional (← realArgument argument)
  | 'g' | 'G' => number do return place.writeReal letter .general (← realArgument argument)
  | 'c' => do return place.fillText ' '.toNat [← characterArgument argument]
  | _ => .error (.unknownPlace letter index)

end Place

end DeliveryCycle.Text
