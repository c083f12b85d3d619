import DeliveryCycle.Json.Value
import DeliveryCycle.Time.Timestamp

/-!
# Log entries

A log entry has a level, the name of the logger, a message and, sometimes, structured details.
Details are made of texts, numbers, truth values, nulls, timestamps, lists and named fields; as
data, a timestamp becomes its text.
-/

namespace DeliveryCycle.Log

/-- How much an entry matters; the named levels are ten apart, and others are allowed. -/
structure Level where
  number : Int
deriving DecidableEq, Repr, Inhabited

namespace Level

def debug : Level := ⟨10⟩

def info : Level := ⟨20⟩

def warning : Level := ⟨30⟩

def error : Level := ⟨40⟩

def critical : Level := ⟨50⟩

def unset : Level := ⟨0⟩

def name (level : Level) : String :=
  if level = unset then "NOTSET"
  else if level = debug then "DEBUG"
  else if level = info then "INFO"
  else if level = warning then "WARNING"
  else if level = error then "ERROR"
  else if level = critical then "CRITICAL"
  else s!"Level {level.number}"

/-- The level that a word in capital letters names. -/
def ofName? (word : String) : Option Level :=
  if word = "NOTSET" then some unset
  else if word = "DEBUG" then some debug
  else if word = "INFO" then some info
  else if word = "WARNING" || word = "WARN" then some warning
  else if word = "ERROR" then some error
  else if word = "CRITICAL" || word = "FATAL" then some critical
  else none

end Level

inductive Detail where
  | null
  | bool (value : Bool)
  | int (value : Int)
  | real (value : Binary64)
  | text (value : String)
  /-- A text with surrogates that have no partner. -/
  | unpaired (codes : List Nat)
  /-- A value whose name is such a text. -/
  | unpairedName (codes : List Nat) (value : Detail)
  | time (value : Timestamp)
  | list (items : List Detail)
  | named (entries : List (String × Detail))
deriving Repr, Inhabited

mutual

def Detail.toJson : Detail → Json
  | .null => .null
  | .bool value => .bool value
  | .int value => .int value
  | .real value => .real value
  | .text value => .string value
  | .unpaired codes => .unpaired codes
  | .unpairedName codes value => .unpairedName codes value.toJson
  | .time value => .string value.messageText
  | .list items => .array (Detail.itemsToJson items)
  | .named entries => .object (Detail.fieldsToJson entries)

def Detail.itemsToJson : List Detail → List Json
  | [] => []
  | item :: rest => item.toJson :: Detail.itemsToJson rest

def Detail.fieldToJson : String × Detail → String × Json
  | (name, value) => (name, value.toJson)

def Detail.fieldsToJson : List (String × Detail) → List (String × Json)
  | [] => []
  | entry :: rest => Detail.fieldToJson entry :: Detail.fieldsToJson rest

end

mutual

/-- Data as a detail; no text is taken for a timestamp. -/
def Detail.ofJson : Json → Detail
  | .null => .null
  | .bool value => .bool value
  | .int value => .int value
  | .real value => .real value
  | .string value => .text value
  | .unpaired codes => .unpaired codes
  | .unpairedName codes value => .unpairedName codes (Detail.ofJson value)
  | .array items => .list (Detail.itemsOfJson items)
  | .object fields => .named (Detail.fieldsOfJson fields)

def Detail.itemsOfJson : List Json → List Detail
  | [] => []
  | item :: rest => Detail.ofJson item :: Detail.itemsOfJson rest

def Detail.fieldOfJson : String × Json → String × Detail
  | (name, value) => (name, Detail.ofJson value)

def Detail.fieldsOfJson : List (String × Json) → List (String × Detail)
  | [] => []
  | field :: rest => Detail.fieldOfJson field :: Detail.fieldsOfJson rest

end

def Detail.ofCodes (codes : List Nat) : Detail :=
  if codes.any Text.isSurrogate then .unpaired codes else .text (Text.ofCodes codes)

/-- One entry of the log. Its message is a text. -/
structure Entry where
  level : Level
  logger : String
  message : Detail
  details : Option (List (String × Detail))
deriving Repr, Inhabited

/-- The root of the names of all loggers. -/
def loggerRoot : String := "cycle_metrics"

def loggerName (name : String) : String := loggerRoot ++ "." ++ name

def Entry.plain (level : Level) (name message : String) : Entry :=
  ⟨level, loggerName name, .text message, none⟩

def Entry.detailed (level : Level) (name message : String) (details : List (String × Detail)) :
    Entry :=
  ⟨level, loggerName name, .text message, some details⟩

/-- An entry with details about a value, which stands at the end of its message. -/
def Entry.about (level : Level) (name message : String) (value : List Nat)
    (details : List (String × Detail)) : Entry :=
  ⟨level, loggerName name, .ofCodes (message.toList.map (·.toNat) ++ value), some details⟩

end DeliveryCycle.Log
