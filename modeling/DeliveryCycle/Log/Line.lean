import DeliveryCycle.Json.Writer
import DeliveryCycle.Log.Entry
import DeliveryCycle.Text.Template

/-!
# Structured log lines

A structured log line is one JSON object on one line. It has the time, the level, the logger and
the message; then the details of the entry, where a detail with the name of one of these takes its
place; and last the exception, if the entry has one, which in turn takes the place of a detail of
that name. The limits of the platform on the digits of an integer and on the nesting of a value are
left out, as in all writing, so that a line is written for arguments and details of any size.
-/

namespace DeliveryCycle.Log

/-- An exception as the log shows it. -/
structure ExceptionInfo where
  kind : String
  message : String
  traceback : List String
deriving DecidableEq, Repr

def ExceptionInfo.toJson (info : ExceptionInfo) : Json :=
  .object [("type", .string info.kind), ("message", .string info.message),
    ("traceback", .array (info.traceback.map .string))]

/-- The text of an exception that was raised with the given arguments. -/
def exceptionText : List Json → String
  | [] => ""
  | [argument] => argument.display
  | first :: rest =>
      String.ofList ('(' :: ((first.inner ++ rest.flatMap fun argument =>
        ',' :: ' ' :: argument.inner) ++ [')']))

/-- A log record before its message is put together. -/
structure Record where
  time : Timestamp
  level : Level
  logger : String
  template : String
  arguments : List Json
  details : List (String × Detail)
  raised : Option ExceptionInfo
deriving Repr

def Record.fields (record : Record) (message : Detail) : List (String × Json) :=
  let base : List (String × Json) := [("timestamp", .string record.time.isoText),
    ("level", .string record.level.name), ("logger", .string record.logger),
    ("message", message.toJson)]
  let detailed := setFields base (Detail.fieldsToJson record.details)
  match record.raised with
  | some info => setField detailed "exception" info.toJson
  | none => detailed

def Record.line (record : Record) : Except Text.TemplateError String := do
  let message ← Text.fill record.template record.arguments
  return (Json.object (record.fields (.ofCodes message))).render .spaced

end DeliveryCycle.Log
