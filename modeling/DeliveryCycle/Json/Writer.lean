import DeliveryCycle.Json.Value
import DeliveryCycle.Number.Shortest

/-!
# Writing JSON

A value is written on one line. A `Layout` says what stands between two items and after a name,
and whether characters behind the printable ones of ASCII are escaped. Log lines use
`Layout.spaced`, which escapes them, so that a line consists of printable characters of ASCII only.
The bodies of requests and of answers use `Layout.compact`. A body is sent in UTF-8 and holds finite
numbers only; `encode` refuses a value that cannot be a body.

Integers of any number of digits and values of any depth are written. The platform of a program
limits both, and writing fails beyond its limits; they are left out here. Others may send values
beyond them, so that `Dialect.received` holds what is received to these limits.
-/

namespace DeliveryCycle.Json

/-- The escape of one unit of sixteen bits. -/
def unitEscape (unit : Nat) : List Char := '\\' :: 'u' :: Text.hexDigits 4 unit

/-- What a written value looks like. -/
structure Layout where
  /-- What stands between two items. -/
  itemGap : List Char
  /-- What stands after a name. -/
  nameGap : List Char
  /-- Whether the text is kept within ASCII. -/
  asciiOnly : Bool
  /-- How a surrogate without a partner is written. -/
  surrogate : Nat → List Char

/-- A blank after every comma and colon, and nothing outside ASCII. -/
def Layout.spaced : Layout := ⟨[',', ' '], [':', ' '], true, unitEscape⟩

/-- No blanks, and all printable characters as they are. -/
def Layout.compact : Layout := ⟨[','], [':'], false, fun _ => [Text.replacementChar]⟩

/-- The escape of a character by its code; beyond sixteen bits, as a pair of surrogates. -/
def codeEscape (code : Nat) : List Char :=
  if code < 0x10000 then unitEscape code
  else
    unitEscape (0xD800 + (code - 0x10000) / 0x400) ++
      unitEscape (0xDC00 + (code - 0x10000) % 0x400)

def writeChar (asciiOnly : Bool) (character : Char) : List Char :=
  if character = '"' then ['\\', '"']
  else if character = '\\' then ['\\', '\\']
  else if character = '\n' then ['\\', 'n']
  else if character = '\r' then ['\\', 'r']
  else if character = '\t' then ['\\', 't']
  else if character = '\x08' then ['\\', 'b']
  else if character = '\x0c' then ['\\', 'f']
  else if character.toNat < 0x20 then codeEscape character.toNat
  else if asciiOnly && 0x7F ≤ character.toNat then codeEscape character.toNat
  else [character]

def writeText (asciiOnly : Bool) (text : String) : List Char :=
  '"' :: (text.toList.flatMap (writeChar asciiOnly) ++ ['"'])

/-- A text that may hold surrogates without partners, in its quotes. -/
def writeCodes (layout : Layout) (codes : List Nat) : List Char :=
  let written := codes.flatMap fun code =>
    if Text.isSurrogate code then layout.surrogate code
    else writeChar layout.asciiOnly (Char.ofNat code)
  '"' :: (written ++ ['"'])

def writeInt (value : Int) : List Char :=
  if value < 0 then '-' :: Number.decimalDigits value.natAbs
  else Number.decimalDigits value.natAbs

/-- A number of double precision; those that are not finite have names. -/
def writeReal : Binary64 → List Char
  | .infinite true => "-Infinity".toList
  | .infinite false => "Infinity".toList
  | .notANumber => "NaN".toList
  | value => value.text.toList

mutual

/-- The characters of a value in a layout. -/
def write (layout : Layout) : Json → List Char
  | .null => "null".toList
  | .bool true => "true".toList
  | .bool false => "false".toList
  | .int value => writeInt value
  | .real value => writeReal value
  | .string value => writeText layout.asciiOnly value
  | .unpaired codes => writeCodes layout codes
  | .unpairedName _ value => write layout value
  | .array [] => ['[', ']']
  | .array (first :: rest) => '[' :: (write layout first ++ writeItems layout rest)
  | .object [] => ['\x7b', '\x7d']
  | .object (first :: rest) => '\x7b' :: (writeField layout first ++ writeFields layout rest)

/-- The items after the first one, and the closing bracket. -/
def writeItems (layout : Layout) : List Json → List Char
  | [] => [']']
  | item :: rest => layout.itemGap ++ (write layout item ++ writeItems layout rest)

def writeField (layout : Layout) : String × Json → List Char
  | (_, .unpairedName codes value) =>
      writeCodes layout codes ++ (layout.nameGap ++ write layout value)
  | (name, value) => writeText layout.asciiOnly name ++ (layout.nameGap ++ write layout value)

/-- The fields after the first one, and the closing brace. -/
def writeFields (layout : Layout) : List (String × Json) → List Char
  | [] => ['\x7d']
  | field :: rest => layout.itemGap ++ (writeField layout field ++ writeFields layout rest)

end

def render (layout : Layout) (value : Json) : String := String.ofList (write layout value)

inductive EncodingError where
  | notFinite
  | unpaired (error : Text.UnpairedSurrogate)
deriving DecidableEq, Repr

def EncodingError.message : EncodingError → String
  | .notFinite => "Out of range float values are not JSON compliant"
  | .unpaired error => error.message

mutual

def isFinite : Json → Bool
  | .real (.finite _ _ _) => true
  | .real _ => false
  | .unpairedName _ value => isFinite value
  | .array items => areFinite items
  | .object fields => fieldsAreFinite fields
  | _ => true

def areFinite : List Json → Bool
  | [] => true
  | item :: rest => isFinite item && areFinite rest

def fieldIsFinite : String × Json → Bool
  | (_, value) => isFinite value

def fieldsAreFinite : List (String × Json) → Bool
  | [] => true
  | field :: rest => fieldIsFinite field && fieldsAreFinite rest

end

/-- A character that is written nowhere else, as control characters are escaped. -/
def surrogateMark : Char := '\x00'

/-- The compact layout, in which a mark stands in front of the code of each surrogate. -/
def Layout.marked : Layout :=
  { Layout.compact with surrogate := fun code => surrogateMark :: Text.hexDigits 4 code }

/-- The number of marked surrogates in a row at the start of a text. -/
def countMarked : (fuel : Nat) → List Char → Nat
  | 0, _ => 0
  | fuel + 1, text =>
      if text.head? = some surrogateMark then countMarked fuel (text.drop 5) + 1 else 0

/-- The surrogates in a marked text that come first. -/
def markedSurrogate? (text : List Char) : Option Text.UnpairedSurrogate :=
  let found := text.dropWhile (· ≠ surrogateMark)
  if found.isEmpty then none
  else
    let code := ((found.drop 1).take 4).foldl (fun value digit =>
      value * 16 + (Text.hexValue? digit).getD 0) 0
    some ⟨code, text.length - found.length, countMarked found.length found⟩

/-- The text of a value as it is sent. -/
def encode (value : Json) : Except EncodingError String :=
  if !isFinite value then .error .notFinite
  else
    match markedSurrogate? (write Layout.marked value) with
    | some error => .error (.unpaired error)
    | none => .ok (render .compact value)

end DeliveryCycle.Json
