/-!
# Search patterns

A search pattern is a text in which `%` stands for any run of characters and `_` for any one
character. A character behind the escape character stands for itself, whatever it is. Letters of
ASCII match without regard to case, all other characters only themselves; the last two codes of the
first 65536 are no characters and count as the replacement character. A pattern and a text end where
a null character stands in them.

`contains` asks for a literal text inside another one. It puts the escape character in front of
every character with a meaning, surrounds the text by `%`, and matches the pattern.
-/

namespace DeliveryCycle.Text

inductive PatternItem where
  | anyRun
  | anyOne
  | literal (character : Char)
deriving DecidableEq, Repr

/-- A character as it is compared: a capital letter of ASCII as a small one, and a code that is no
character as the replacement character. -/
def comparedChar (character : Char) : Char :=
  if character = '\ufffe' || character = '\uffff' then '\ufffd' else character.toLower

/-- A text up to its first null character. -/
def upToNull (text : List Char) : List Char := text.takeWhile (· ≠ '\x00')

/-- The parts of a pattern; an escape character at the end of the text escapes nothing. -/
def patternItems? (escape : Char) : List Char → Option (List PatternItem)
  | [] => some []
  | [character] =>
      if character = escape then none
      else if character = '%' then some [.anyRun]
      else if character = '_' then some [.anyOne]
      else some [.literal character]
  | character :: next :: rest =>
      if character = escape then
        (patternItems? escape rest).map (.literal next :: ·)
      else if character = '%' then
        (patternItems? escape (next :: rest)).map (.anyRun :: ·)
      else if character = '_' then
        (patternItems? escape (next :: rest)).map (.anyOne :: ·)
      else
        (patternItems? escape (next :: rest)).map (.literal character :: ·)

/-- Whether a condition holds of a text or of what is left of it from some place on. -/
def anyRest (condition : List Char → Bool) : List Char → Bool
  | [] => condition []
  | character :: rest => condition (character :: rest) || anyRest condition rest

def matchesItems : List PatternItem → List Char → Bool
  | [], text => text.isEmpty
  | .anyRun :: items, text => anyRest (matchesItems items) text
  | .anyOne :: items, text =>
      match text with
      | [] => false
      | _ :: rest => matchesItems items rest
  | .literal expected :: items, text =>
      match text with
      | [] => false
      | character :: rest =>
          comparedChar character = comparedChar expected && matchesItems items rest

/-- Whether a text matches a pattern with the given escape character. -/
def matchesPattern (escape : Char) (pattern text : List Char) : Bool :=
  match patternItems? escape (upToNull pattern) with
  | some items => matchesItems items (upToNull text)
  | none => false

/-- The escape character of the patterns that this library builds. -/
def escapeChar : Char := '/'

/-- A text in which every character with a meaning in patterns is escaped. -/
def escapePattern (text : List Char) : List Char :=
  text.flatMap fun character =>
    if character = escapeChar || character = '%' || character = '_' then [escapeChar, character]
    else [character]

/-- The pattern of all texts that contain the given one. -/
def containsPattern (text : List Char) : List Char := '%' :: (escapePattern text ++ ['%'])

/-- Whether a text contains another one. A database may refuse patterns beyond some length, far
above that of any identifier that its columns hold; this limit is left out. -/
def contains (text part : String) : Bool :=
  matchesPattern escapeChar (containsPattern part.toList) text.toList

end DeliveryCycle.Text
