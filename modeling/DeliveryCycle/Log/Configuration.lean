import DeliveryCycle.Log.Entry
import DeliveryCycle.Settings.Environment
import DeliveryCycle.Text.Capital
import DeliveryCycle.Text.Quoted

/-!
# Configuration of the log

The log is configured once: the first call sets the level and attaches a handler, and later calls
change nothing. The handler writes either structured lines or lines after a text format.

The level is set by its name, and a word that names nothing means `info`. Two words name something
that is no level, a format and the styles of formats; they are refused, and the log stays without a
handler.
-/

namespace DeliveryCycle.Log

/-- How a handler writes an entry. -/
inductive LineFormat where
  | json
  | text
deriving DecidableEq, Repr

/-- The format of lines of text, with the names of their parts. -/
def textFormat : String := "%(asctime)s [%(levelname)s] %(name)s: %(message)s"

def LineFormat.ofSetting (word : String) : LineFormat := if word = "json" then .json else .text

/-- A style of formats: how it marks the names of parts, and its usual format. -/
structure FormatStyle where
  mark : String
  name : String
  format : String
deriving DecidableEq, Repr

def basicFormat : String := "%(levelname)s:%(name)s:%(message)s"

def formatStyles : List FormatStyle :=
  [⟨"%", "logging.PercentStyle", basicFormat⟩,
    ⟨"\x7b", "logging.StrFormatStyle",
      "\x7blevelname\x7d:\x7bname\x7d:\x7bmessage\x7d"⟩,
    ⟨"$", "logging.StringTemplateStyle",
      "$\x7blevelname\x7d:$\x7bname\x7d:$\x7bmessage\x7d"⟩]

/-- A style of formats as a message shows it. -/
def FormatStyle.shown (style : FormatStyle) : String :=
  Text.quoted style.mark ++ ": (<class " ++ Text.quoted style.name ++ ">, " ++
    Text.quoted style.format ++ ")"

inductive LevelError where
  | namesFormat
  | namesStyles
deriving DecidableEq, Repr

def LevelError.message : LevelError → String
  | .namesFormat => "Unknown level: " ++ Text.quoted basicFormat
  | .namesStyles =>
      "Level not an integer or a valid string: \x7b" ++
        ", ".intercalate (formatStyles.map (·.shown)) ++ "\x7d"

def Level.ofSetting (setting : String) : Except LevelError Level :=
  let word := Text.inCapitals setting
  if word = "BASIC_FORMAT" then .error .namesFormat
  else if word = "_STYLES" then .error .namesStyles
  else .ok ((ofName? word).getD info)

/-- The state of the log: its level and its handlers. -/
structure Configuration where
  level : Level
  handlers : List LineFormat
deriving DecidableEq, Repr

def Configuration.initial : Configuration := ⟨.unset, []⟩

/-- Configures the log from the environment, unless it has a handler. -/
def Configuration.configure (configuration : Configuration) (environment : Environment) :
    Except LevelError Configuration :=
  if configuration.handlers.isEmpty then do
    let level ← Level.ofSetting (environment.getD "LOG_LEVEL" "INFO")
    return ⟨level, [.ofSetting (environment.getD "LOG_FORMAT" "text")]⟩
  else .ok configuration

theorem Configuration.configure_of_configure {configuration configured : Configuration}
    {first : Environment} (done : configuration.configure first = .ok configured)
    (second : Environment) : configured.configure second = .ok configured := by
  have handled : configured.handlers.isEmpty = false := by
    unfold configure at done
    split at done
    · cases level : Level.ofSetting (first.getD "LOG_LEVEL" "INFO") with
      | error error => simp [level, bind, Except.bind] at done
      | ok level' =>
          simp only [level, bind, Except.bind, pure, Except.pure, Except.ok.injEq] at done
          simp [← done]
    · next unhandled => simp_all
  simp [configure, handled]

end DeliveryCycle.Log
