/-!
# Blank characters

Two sets of blank characters are in use. `isBlank` decides what is cut off the ends of a project
name and what makes a name empty. `isSpacing` is the set that may surround a number in a setting
or in a request; it leaves out the four information separators U+001C to U+001F, which `isBlank`
holds.
-/

namespace DeliveryCycle.Text

/-- The separators outside the first 128 characters that both sets hold. -/
def isWideSpace (character : Char) : Bool :=
  let code := character.toNat
  code = 0x85 || code = 0xA0 || code = 0x1680 || (0x2000 ≤ code && code ≤ 0x200A) ||
    code = 0x2028 || code = 0x2029 || code = 0x202F || code = 0x205F || code = 0x3000

/-- A tab, a line break, a vertical tab, a form feed, a carriage return, a blank or a wide space. -/
def isSpacing (character : Char) : Bool :=
  let code := character.toNat
  (9 ≤ code && code ≤ 13) || code = 32 || isWideSpace character

/-- A spacing character or one of the four information separators. -/
def isBlank (character : Char) : Bool :=
  let code := character.toNat
  isSpacing character || (28 ≤ code && code ≤ 31)

/-- The characters left after those satisfying `drops` are removed from both ends. -/
def trimList (drops : Char → Bool) (characters : List Char) : List Char :=
  ((characters.dropWhile drops).reverse.dropWhile drops).reverse

/-- The text without the characters satisfying `drops` at its two ends. -/
def trimBy (drops : Char → Bool) (text : String) : String :=
  String.ofList (trimList drops text.toList)

/-- The text without blank characters at its two ends. -/
def trim (text : String) : String := trimBy isBlank text

end DeliveryCycle.Text
