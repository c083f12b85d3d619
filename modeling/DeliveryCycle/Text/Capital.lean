/-!
# Capital letters

The words of settings and the methods of requests are compared in capital letters of ASCII. Some
letters outside ASCII have one or more letters of ASCII as their capitals.
-/

namespace DeliveryCycle.Text

/-- The letters outside ASCII whose capitals are in ASCII, with their capitals. -/
def narrowCapitals : List (Char × String) :=
  [('\u00df', "SS"), ('\u0131', "I"), ('\u017f', "S"), ('\ufb00', "FF"), ('\ufb01', "FI"),
    ('\ufb02', "FL"), ('\ufb03', "FFI"), ('\ufb04', "FFL"), ('\ufb05', "ST"), ('\ufb06', "ST")]

/-- The capitals of a letter, for the letters whose capitals are in ASCII. -/
def capitals (letter : Char) : List Char :=
  match narrowCapitals.find? fun known => known.1 = letter with
  | some (_, capitals) => capitals.toList
  | none => [letter.toUpper]

/-- A word in capital letters. -/
def inCapitals (word : String) : String := String.ofList (word.toList.flatMap capitals)

end DeliveryCycle.Text
