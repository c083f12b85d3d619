/-!
# Texts cut at separators

`segments` cuts a text at every occurrence of a separator and `joinSegments` puts the parts together
again. There is always at least one part.
-/

namespace DeliveryCycle.Text

/-- The parts of a text between separators. -/
def segments (separator : Char) : List Char → List (List Char)
  | [] => [[]]
  | character :: rest =>
      if character = separator then [] :: segments separator rest
      else
        match segments separator rest with
        | first :: others => (character :: first) :: others
        | [] => [[character]]

/-- A text as it was before it was cut at separators. -/
def joinSegments (separator : Char) : List (List Char) → List Char
  | [] => []
  | [segment] => segment
  | segment :: rest => segment ++ separator :: joinSegments separator rest

theorem segments_ne_nil (separator : Char) (text : List Char) : segments separator text ≠ [] := by
  cases text with
  | nil => simp [segments]
  | cons character rest =>
      unfold segments
      split
      · simp
      · split <;> simp

theorem joinSegments_segments (separator : Char) (text : List Char) :
    joinSegments separator (segments separator text) = text := by
  induction text with
  | nil => rfl
  | cons character rest ih =>
      unfold segments
      split
      · next same =>
          obtain ⟨first, others, eq⟩ :=
            List.exists_cons_of_ne_nil (segments_ne_nil separator rest)
          rw [eq] at ih ⊢
          simp [joinSegments, ih, same]
      · split
        · next first others eq =>
            rw [eq] at ih
            cases others with
            | nil => simpa [joinSegments] using ih
            | cons second others => simpa [joinSegments] using ih
        · next eq => exact absurd eq (segments_ne_nil separator rest)

/-- A text up to the first occurrence of a mark, and what follows it. -/
def splitAtFirst (mark : Char) (text : List Char) : List Char × Option (List Char) :=
  (text.takeWhile (· ≠ mark), match text.dropWhile (· ≠ mark) with
    | [] => none
    | _ :: rest => some rest)

/-- What precedes the last occurrence of a mark, and the text behind it. -/
def splitAtLast (mark : Char) (text : List Char) : Option (List Char) × List Char :=
  let (reversed, front) := splitAtFirst mark text.reverse
  (front.map List.reverse, reversed.reverse)

end DeliveryCycle.Text
