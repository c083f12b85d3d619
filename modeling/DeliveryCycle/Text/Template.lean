import DeliveryCycle.Number.IntegerText
import DeliveryCycle.Text.Place

/-!
# Message templates

A message may leave places for arguments. A place begins with a percent sign and ends with a letter
(`DeliveryCycle.Text.Place`); two percent signs stand for one. `fill` puts the arguments in, one
after the other. A star in the place of a width or a precision takes an argument, too. Arguments may
also be given by name, as the fields of one object; a name in parentheses then chooses one. What
comes out is a list of codes, because an integer at a place for a character may be a surrogate.
-/

namespace DeliveryCycle.Text

/-- The arguments that are left, and the named ones. -/
structure Arguments where
  listed : List Json
  named : Option (List (String × Json))
deriving Repr

/-- Arguments as they are given: a single object that is not empty names them. -/
def Arguments.ofList (arguments : List Json) : Arguments :=
  match arguments with
  | [.object (first :: rest)] => ⟨arguments, some (first :: rest)⟩
  | _ => ⟨arguments, none⟩

def Arguments.next (arguments : Arguments) : Except TemplateError (Json × Arguments) :=
  match arguments.listed with
  | [] => .error .tooFewArguments
  | first :: rest => .ok (first, { arguments with listed := rest })

/-- What was read of a place, the text behind it and the arguments that are left. -/
structure PlaceReading where
  place : Place
  rest : List Char
  arguments : Arguments
deriving Repr

/-- The name in parentheses at the start of a text, read behind its opening parenthesis. -/
def readName : (depth : Nat) → List Char → Except TemplateError (List Char × List Char)
  | _, [] => .error .openName
  | depth, ')' :: rest =>
      match depth with
      | 0 => .ok ([], rest)
      | depth + 1 => do
          let (name, rest) ← readName depth rest
          return (')' :: name, rest)
  | depth, character :: rest => do
      let (name, rest) ← readName (if character = '(' then depth + 1 else depth) rest
      return (character :: name, rest)

/-- Chooses the argument with the name at the start of a text, if there is a name. -/
def chooseArgument (text : List Char) (arguments : Arguments) :
    Except TemplateError (List Char × Arguments) :=
  match text, arguments.named with
  | '(' :: _, none => .error .namesRequired
  | '(' :: rest, some fields => do
      let (name, rest) ← readName 0 rest
      match getField? fields (String.ofList name) with
      | none => .error (.unknownName (String.ofList name))
      | some value => return (rest, { arguments with listed := [value] })
  | text, _ => .ok (text, arguments)

def readFlags (place : Place) : List Char → Place × List Char
  | '-' :: rest => readFlags { place with left := true } rest
  | '+' :: rest => readFlags { place with plus := true } rest
  | ' ' :: rest => readFlags { place with blank := true } rest
  | '#' :: rest => readFlags { place with full := true } rest
  | '0' :: rest => readFlags { place with zeros := true } rest
  | rest => (place, rest)

/-- The integer that a star takes from the arguments. -/
def starArgument (native : String) (bound : Nat) (arguments : Arguments) :
    Except TemplateError (Int × Arguments) := do
  let (argument, arguments) ← arguments.next
  match argument with
  | .int value =>
      if value < -(bound : Int) || (bound : Int) ≤ value then .error (.starTooLarge native)
      else return (value, arguments)
  | .bool value => return (if value then 1 else 0, arguments)
  | _ => .error .starWantsInteger

/-- The number at the start of a text, zero without digits, unless it is beyond a bound. -/
def readBounded (error : TemplateError) (bound : Nat) (text : List Char) :
    Except TemplateError (Nat × List Char) :=
  let value := Number.ofCommonDigits (text.takeWhile Char.isDigit)
  if bound ≤ value then .error error else .ok (value, text.dropWhile Char.isDigit)

/-- One more than the greatest width. -/
def widthBound : Nat := Number.twoPow 63

/-- One more than the greatest precision. -/
def precisionBound : Nat := Number.twoPow 31

/-- Reads the width of a place; a negative one counts from the left. -/
def readWidth (reading : PlaceReading) : Except TemplateError PlaceReading :=
  match reading.rest with
  | '*' :: rest => do
      let (width, arguments) ← starArgument "ssize_t" widthBound reading.arguments
      let place := { reading.place with
        width := width.natAbs
        left := reading.place.left || width < 0 }
      return ⟨place, rest, arguments⟩
  | rest => do
      let (width, rest) ← readBounded .widthTooLarge widthBound rest
      return ⟨{ reading.place with width := width }, rest, reading.arguments⟩

/-- Reads the precision of a place, if it has one. -/
def readPrecision (reading : PlaceReading) : Except TemplateError PlaceReading :=
  match reading.rest with
  | '.' :: '*' :: rest => do
      let (precision, arguments) ← starArgument "int" precisionBound reading.arguments
      return ⟨{ reading.place with precision := some precision.toNat }, rest, arguments⟩
  | '.' :: rest => do
      let (precision, rest) ← readBounded .precisionTooLarge precisionBound rest
      return ⟨{ reading.place with precision := some precision }, rest, reading.arguments⟩
  | _ => .ok reading

/-- The text behind a letter for the size of a number, which has no meaning. -/
def dropSize : List Char → List Char
  | 'h' :: rest => rest
  | 'l' :: rest => rest
  | 'L' :: rest => rest
  | rest => rest

/-- Reads a place behind its percent sign, up to its letter. -/
def readPlace (text : List Char) (arguments : Arguments) : Except TemplateError PlaceReading := do
  let (text, arguments) ← chooseArgument text arguments
  let (place, rest) := readFlags default text
  let reading ← readPrecision (← readWidth ⟨place, rest, arguments⟩)
  return { reading with rest := dropSize reading.rest }

/--
Fills the places of a template from left to right. `length` is the length of the whole template; the
number of characters that are left tells the index of a letter.
-/
def fillFrom (length : Nat) :
    (fuel : Nat) → (template : List Char) → Arguments → Except TemplateError (List Nat)
  | 0, _, _ => .ok []
  | _ + 1, [], arguments =>
      if arguments.listed.isEmpty || arguments.named.isSome then .ok []
      else .error .tooManyArguments
  | fuel + 1, '%' :: '%' :: rest, arguments => do
      return '%'.toNat :: (← fillFrom length fuel rest arguments)
  | fuel + 1, '%' :: rest, arguments => do
      let reading ← readPlace rest arguments
      match reading.rest with
      | [] => .error .openPlace
      | letter :: rest =>
          let (argument, arguments) ← reading.arguments.next
          let text ← reading.place.write letter (length - rest.length - 1) argument
          return text ++ (← fillFrom length fuel rest arguments)
  | fuel + 1, character :: rest, arguments => do
      return character.toNat :: (← fillFrom length fuel rest arguments)

/-- The template with its arguments, in codes; without arguments it is a plain text. -/
def fill (template : String) (arguments : List Json) : Except TemplateError (List Nat) :=
  let characters := template.toList
  if arguments.isEmpty then .ok (characters.map Char.toNat)
  else fillFrom characters.length (characters.length + 1) characters (.ofList arguments)

end DeliveryCycle.Text
