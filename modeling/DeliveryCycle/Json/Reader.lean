import DeliveryCycle.Json.Encoding
import DeliveryCycle.Json.Value
import DeliveryCycle.Number.DecimalText

/-!
# Reading JSON

`Json.parse?` reads a whole text as one value. It accepts the grammar of JSON and nothing else, and
no surrogates without partners either, which the grammar allows.

`Json.receive` reads a body that came over a connection. Its encoding is found out first. It may
hold the three names of numbers that are not finite and surrogates without partners, but no integer
with too many digits, and lists and objects may not lie too deep inside each other. The first thing
that is wrong decides about the error.

Of several fields with one name the last value counts, at the first place.

What is read is a list of codes, because a body may hold a surrogate without a partner as it is.

The readers of values, items and fields call each other with a bound on the depth of the calls.
The bound starts at twice the length of the text. No reading can exhaust it, because of any two
calls inside each other at least one takes a character.
-/

namespace DeliveryCycle.Json

inductive Container where
  | list
  | object
deriving DecidableEq, Repr

inductive ReadError where
  | malformed
  | tooManyDigits (count : Nat)
  | tooDeep (container : Container)
  | undecodable (error : DecodingError)
deriving DecidableEq, Repr

def ReadError.message : ReadError → String
  | .malformed => "not a JSON text"
  | .tooManyDigits count => Number.tooManyDigitsMessage count
  | .tooDeep .list =>
      "maximum recursion depth exceeded while decoding a JSON array from a unicode string"
  | .tooDeep .object =>
      "maximum recursion depth exceeded while decoding a JSON object from a unicode string"
  | .undecodable error => error.message

structure Dialect where
  /-- Whether the names of numbers that are not finite are accepted. -/
  nonFinite : Bool
  /-- Whether surrogates without partners are accepted. -/
  unpaired : Bool
  /-- The greatest number of digits of an integer, if there is one. -/
  greatestDigits : Option Nat
  /-- How deep lists and objects may lie inside each other, if that is limited. -/
  greatestDepth : Option Nat
deriving DecidableEq, Repr

def Dialect.strict : Dialect := ⟨false, false, none, none⟩

/-- What is accepted in a body. -/
def Dialect.received : Dialect := ⟨true, true, some Number.greatestDigitCount, some 940⟩

namespace Sign

@[match_pattern] abbrev quote : Nat := 0x22

@[match_pattern] abbrev backslash : Nat := 0x5C

@[match_pattern] abbrev slash : Nat := 0x2F

@[match_pattern] abbrev openList : Nat := 0x5B

@[match_pattern] abbrev closeList : Nat := 0x5D

@[match_pattern] abbrev openObject : Nat := 0x7B

@[match_pattern] abbrev closeObject : Nat := 0x7D

@[match_pattern] abbrev comma : Nat := 0x2C

@[match_pattern] abbrev colon : Nat := 0x3A

@[match_pattern] abbrev minus : Nat := 0x2D

@[match_pattern] abbrev plus : Nat := 0x2B

@[match_pattern] abbrev point : Nat := 0x2E

@[match_pattern] abbrev zero : Nat := 0x30

end Sign

/-- The four characters that may stand between the parts of a JSON text. -/
def isGap (code : Nat) : Bool := code = 0x20 || code = 0x09 || code = 0x0A || code = 0x0D

/-- The text without the gap at its start. -/
def skipGap (text : List Nat) : List Nat := text.dropWhile isGap

/-- The text behind an expected word. -/
def dropWord? : (word : List Char) → (text : List Nat) → Option (List Nat)
  | [], text => some text
  | _ :: _, [] => none
  | expected :: word, code :: text =>
      if code = expected.toNat then dropWord? word text else none

def hexCodeValue? (code : Nat) : Option Nat := Text.hexValue? (Text.charOfCode code)

/-- The unit of sixteen bits written as four hexadecimal digits. -/
def readUnit? : List Nat → Option (Nat × List Nat)
  | first :: second :: third :: fourth :: rest => do
      let first ← hexCodeValue? first
      let second ← hexCodeValue? second
      let third ← hexCodeValue? third
      let fourth ← hexCodeValue? fourth
      return (((first * 16 + second) * 16 + third) * 16 + fourth, rest)
  | _ => none

/-- The code of an escape; two surrogates stand for one code. -/
def readCode (dialect : Dialect) (text : List Nat) : Except ReadError (Nat × List Nat) :=
  match readUnit? text with
  | none => .error .malformed
  | some (unit, rest) =>
      match (dropWord? ['\\', 'u'] rest).bind readUnit? with
      | some (low, behind) =>
          if Text.isHighSurrogate unit && Text.isLowSurrogate low then
            .ok (Text.joinSurrogates unit low, behind)
          else if Text.isSurrogate unit && !dialect.unpaired then .error .malformed
          else .ok (unit, rest)
      | none =>
          if Text.isSurrogate unit && !dialect.unpaired then .error .malformed
          else .ok (unit, rest)

/-- The code that a letter behind a backslash stands for. -/
def escapedCode? (letter : Nat) : Option Nat :=
  if letter = Sign.quote || letter = Sign.backslash || letter = Sign.slash then some letter
  else if letter = 'b'.toNat then some 0x08
  else if letter = 'f'.toNat then some 0x0C
  else if letter = 'n'.toNat then some 0x0A
  else if letter = 'r'.toNat then some 0x0D
  else if letter = 't'.toNat then some 0x09
  else none

/-- The code of an escape, read behind the backslash. -/
def readEscape (dialect : Dialect) : List Nat → Except ReadError (Nat × List Nat)
  | [] => .error .malformed
  | letter :: rest =>
      if letter = 'u'.toNat then readCode dialect rest
      else
        match escapedCode? letter with
        | some code => .ok (code, rest)
        | none => .error .malformed

/-- The codes of a JSON text, read behind its opening quote. -/
def readCodes (dialect : Dialect) :
    (fuel : Nat) → List Nat → Except ReadError (List Nat × List Nat)
  | 0, _ => .error .malformed
  | _ + 1, [] => .error .malformed
  | fuel + 1, code :: rest =>
      if code = Sign.quote then .ok ([], rest)
      else if code = Sign.backslash then do
        let (escaped, rest) ← readEscape dialect rest
        let (codes, rest) ← readCodes dialect fuel rest
        return (escaped :: codes, rest)
      else if code < 0x20 then .error .malformed
      else do
        let (codes, rest) ← readCodes dialect fuel rest
        return (code :: codes, rest)

def ofCodes (codes : List Nat) : Json :=
  if codes.any Text.isSurrogate then .unpaired codes else .string (Text.ofCodes codes)

def fieldOfCodes (codes : List Nat) (value : Json) : String × Json :=
  (Text.ofCodes codes, if codes.any Text.isSurrogate then .unpairedName codes value else value)

def objectOfCodes (fields : List (List Nat × Json)) : Json :=
  .object ((setFields [] fields).map fun field => fieldOfCodes field.1 field.2)

def isDigitCode (code : Nat) : Bool := 0x30 ≤ code && code ≤ 0x39

def splitDigits (text : List Nat) : List Nat × List Nat :=
  (text.takeWhile isDigitCode, text.dropWhile isDigitCode)

def digitsValue (digits : List Nat) : Nat :=
  Number.ofDigits (digits.map fun digit => digit - Sign.zero)

/-- The digits of the integer part of a number: a zero, or digits that do not start with zero. -/
def readWhole (text : List Nat) : Except ReadError (List Nat × List Nat) :=
  match text with
  | Sign.zero :: rest => .ok ([Sign.zero], rest)
  | _ =>
      let (digits, rest) := splitDigits text
      if digits.isEmpty then .error .malformed else .ok (digits, rest)

def readInteger (dialect : Dialect) (negative : Bool) (digits : List Nat) :
    Except ReadError Json :=
  if dialect.greatestDigits.any fun greatest => greatest < digits.length then
    .error (.tooManyDigits digits.length)
  else .ok (.int (Number.signedInteger negative (digitsValue digits)))

/-- The digits behind a point, if there is a point with digits. -/
def readFractionDigits (text : List Nat) : List Nat × List Nat :=
  match text with
  | Sign.point :: rest =>
      let (digits, rest) := splitDigits rest
      if digits.isEmpty then ([], text) else (digits, rest)
  | _ => ([], text)

/-- Whether an exponent is negative, and its digits. -/
def splitExponentSign : List Nat → Bool × List Nat
  | Sign.minus :: rest => (true, rest)
  | Sign.plus :: rest => (false, rest)
  | text => (false, text)

/-- The exponent of a number, if there is one with digits. -/
def readExponent? (text : List Nat) : Option (Int × List Nat) :=
  match text with
  | letter :: rest =>
      if letter = 'e'.toNat || letter = 'E'.toNat then
        let (negative, rest) := splitExponentSign rest
        let (digits, rest) := splitDigits rest
        if digits.isEmpty then none
        else some (Number.signedInteger negative (digitsValue digits), rest)
      else none
  | [] => none

/-- A number, read behind its sign. -/
def readMagnitude (dialect : Dialect) (negative : Bool) (text : List Nat) :
    Except ReadError (Json × List Nat) := do
  let (whole, rest) ← readWhole text
  let (fraction, rest) := readFractionDigits rest
  let digits := digitsValue (whole ++ fraction)
  match readExponent? rest with
  | some (power, rest) =>
      return (.real (.ofDecimal negative digits (power - fraction.length)), rest)
  | none =>
      if fraction.isEmpty then return (← readInteger dialect negative whole, rest)
      else return (.real (.ofDecimal negative digits (-fraction.length)), rest)

def readNumber (dialect : Dialect) : List Nat → Except ReadError (Json × List Nat)
  | Sign.minus :: rest => readMagnitude dialect true rest
  | text => readMagnitude dialect false text

def readSpecial? (text : List Nat) : Option (Json × List Nat) :=
  match dropWord? "NaN".toList text, dropWord? "Infinity".toList text,
      dropWord? "-Infinity".toList text with
  | some rest, _, _ => some (.real .notANumber, rest)
  | _, some rest, _ => some (.real (.infinite false), rest)
  | _, _, some rest => some (.real (.infinite true), rest)
  | none, none, none => none

/-- A value that holds no other values and is no text. -/
def readScalar (dialect : Dialect) (text : List Nat) : Except ReadError (Json × List Nat) :=
  match dropWord? "null".toList text, dropWord? "true".toList text,
      dropWord? "false".toList text with
  | some rest, _, _ => .ok (.null, rest)
  | _, some rest, _ => .ok (.bool true, rest)
  | _, _, some rest => .ok (.bool false, rest)
  | none, none, none =>
      match if dialect.nonFinite then readSpecial? text else none with
      | some result => .ok result
      | none => readNumber dialect text

/-- The depth that is left inside a list or an object. -/
def depthInside (container : Container) : Option Nat → Except ReadError (Option Nat)
  | none => .ok none
  | some 0 => .error (.tooDeep container)
  | some (depth + 1) => .ok (some depth)

mutual

/-- A value at the start of a text, without a gap in front of it. -/
def readValue (dialect : Dialect) :
    (fuel : Nat) → (depth : Option Nat) → List Nat → Except ReadError (Json × List Nat)
  | 0, _, _ => .error .malformed
  | fuel + 1, _, Sign.quote :: rest => do
      let (codes, rest) ← readCodes dialect fuel rest
      return (ofCodes codes, rest)
  | fuel + 1, depth, Sign.openList :: rest => do
      let depth ← depthInside .list depth
      match skipGap rest with
      | Sign.closeList :: rest => return (.array [], rest)
      | rest =>
          let (items, rest) ← readItems dialect fuel depth rest
          return (.array items, rest)
  | fuel + 1, depth, Sign.openObject :: rest => do
      let depth ← depthInside .object depth
      match skipGap rest with
      | Sign.closeObject :: rest => return (.object [], rest)
      | rest =>
          let (fields, rest) ← readFields dialect fuel depth rest
          return (objectOfCodes fields, rest)
  | _ + 1, _, text => readScalar dialect text

/-- The items of a list up to its closing bracket; there is at least one. -/
def readItems (dialect : Dialect) :
    (fuel : Nat) → (depth : Option Nat) → List Nat →
      Except ReadError (List Json × List Nat)
  | 0, _, _ => .error .malformed
  | fuel + 1, depth, text => do
      let (item, rest) ← readValue dialect fuel depth text
      match skipGap rest with
      | Sign.comma :: rest =>
          let (items, rest) ← readItems dialect fuel depth (skipGap rest)
          return (item :: items, rest)
      | Sign.closeList :: rest => return ([item], rest)
      | _ => .error .malformed

/-- The fields of an object up to its closing brace; there is at least one. -/
def readFields (dialect : Dialect) :
    (fuel : Nat) → (depth : Option Nat) → List Nat →
      Except ReadError (List (List Nat × Json) × List Nat)
  | 0, _, _ => .error .malformed
  | fuel + 1, depth, Sign.quote :: rest => do
      let (codes, rest) ← readCodes dialect fuel rest
      match skipGap rest with
      | Sign.colon :: rest =>
          let (value, rest) ← readValue dialect fuel depth (skipGap rest)
          match skipGap rest with
          | Sign.comma :: rest =>
              let (fields, rest) ← readFields dialect fuel depth (skipGap rest)
              return ((codes, value) :: fields, rest)
          | Sign.closeObject :: rest => return ([(codes, value)], rest)
          | _ => .error .malformed
      | _ => .error .malformed
  | _ + 1, _, _ => .error .malformed

end

/-- The value that a text stands for as a whole. -/
def readAll (dialect : Dialect) (text : List Nat) : Except ReadError Json := do
  let (value, rest) ←
    readValue dialect (2 * text.length + 2) dialect.greatestDepth (skipGap text)
  if (skipGap rest).isEmpty then return value else .error .malformed

def parse? (text : String) : Option Json := (readAll .strict (text.toList.map Char.toNat)).toOption

def receive (body : String) : Except ReadError Json := do
  readAll .received (← (decodeCodes body.toList).mapError .undecodable)

end DeliveryCycle.Json
