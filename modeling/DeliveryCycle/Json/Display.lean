import DeliveryCycle.Json.Value
import DeliveryCycle.Number.Shortest

/-!
# JSON values in messages

Inside a message a text stands as it is and any other value in its written form: words for null
and the truth values, brackets around lists and braces around objects, with the texts inside
them in quotes.
-/

namespace DeliveryCycle.Json

mutual

/-- The written form of a value inside brackets or braces. -/
def inner : Json → List Char
  | .null => "None".toList
  | .bool true => "True".toList
  | .bool false => "False".toList
  | .int value => (toString value).toList
  | .real value => value.text.toList
  | .string value => (Text.quoted value).toList
  | .unpaired codes => (Text.quotedCodes codes).toList
  | .unpairedName _ value => inner value
  | .array [] => ['[', ']']
  | .array (first :: rest) => '[' :: (inner first ++ innerItems rest)
  | .object [] => ['\x7b', '\x7d']
  | .object (first :: rest) => '\x7b' :: (innerField first ++ innerFields rest)

/-- The written form of the items after the first one, and the closing bracket. -/
def innerItems : List Json → List Char
  | [] => [']']
  | item :: rest => ',' :: ' ' :: (inner item ++ innerItems rest)

def innerField : String × Json → List Char
  | (_, .unpairedName codes value) =>
      (Text.quotedCodes codes).toList ++ (':' :: ' ' :: inner value)
  | (name, value) => (Text.quoted name).toList ++ (':' :: ' ' :: inner value)

/-- The written form of the fields after the first one, and the closing brace. -/
def innerFields : List (String × Json) → List Char
  | [] => ['\x7d']
  | field :: rest => ',' :: ' ' :: (innerField field ++ innerFields rest)

end

/-- How a value stands in a message, with the replacement character for a lone surrogate. -/
def display : Json → String
  | .string value => value
  | .unpaired codes => Text.ofCodes codes
  | value => String.ofList (inner value)

@[simp] theorem display_int (value : Int) : display (.int value) = toString value := by
  simp [display, inner]

def displayCodes : Json → List Nat
  | .unpaired codes => codes
  | value => value.display.toList.map (·.toNat)

def kindName : Json → String
  | .null => "NoneType"
  | .bool _ => "bool"
  | .int _ => "int"
  | .real _ => "float"
  | .string _ | .unpaired _ => "str"
  | .unpairedName _ value => kindName value
  | .array _ => "list"
  | .object _ => "dict"

/-- How an integer that may be missing stands in a message. -/
def displayInt (value : Option Int) : String := (ofInt? value).display

end DeliveryCycle.Json
