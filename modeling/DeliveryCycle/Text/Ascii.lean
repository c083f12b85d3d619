import DeliveryCycle.Text.Surrogate

/-!
# Texts of ASCII

The lines at the head of a request are sent in ASCII. `checkAscii` lets a text through that consists
of the first 128 characters; of any other one it finds the first stretch of characters that cannot
be sent.
-/

namespace DeliveryCycle.Text

/-- Characters that are not in ASCII: the first of them, its place and how many there are. -/
structure WideStretch where
  first : Char
  start : Nat
  count : Nat
deriving DecidableEq, Repr

def WideStretch.message (stretch : WideStretch) : String :=
  unencodableMessage "ascii" (String.ofList (escapedChar stretch.first)) stretch.start
    stretch.count "ordinal not in range(128)"

def isWide (character : Char) : Bool := 0x80 ≤ character.toNat

def checkAscii (text : List Char) : Except WideStretch Unit :=
  match text.dropWhile fun character => !isWide character with
  | [] => .ok ()
  | first :: rest => .error ⟨first, text.findIdx isWide, 1 + (rest.takeWhile isWide).length⟩

/-- A text is let through exactly if every character is in ASCII. -/
theorem checkAscii_eq_ok_iff {text : List Char} :
    checkAscii text = .ok () ↔ ∀ character ∈ text, isWide character = false := by
  have nothing_left : ∀ text : List Char,
      (text.dropWhile fun character => !isWide character) = [] ↔
        ∀ character ∈ text, isWide character = false := by
    intro text
    induction text with
    | nil => simp
    | cons character rest ih => cases wide : isWide character <;> simp [wide, ih]
  rw [← nothing_left]
  unfold checkAscii
  split <;> simp_all

end DeliveryCycle.Text
