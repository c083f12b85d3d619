import DeliveryCycle.Text.Pattern
import Mathlib.Data.List.Infix
import Mathlib.Data.List.TakeWhile

/-!
# Texts that occur in others

The pattern for a literal text escapes what has a meaning and stands between two runs of any
characters. Its parts are the characters of the text as they are, by
`patternItems?_escapePattern_append`, so a text matches it exactly if the literal text occurs in it
as it is compared. A null character cuts the pattern off in front of the second run; what stands
before it must then be the end of the other text.
-/

namespace DeliveryCycle.Text

/-- What is compared of a text. -/
def compared (text : String) : List Char := (upToNull text.toList).map comparedChar

/-- A text occurs in another one as the database compares them: all of it at any place, or what
stands before its first null character at the end. -/
def OccursIn (part text : String) : Prop :=
  if '\x00' ∈ part.toList then compared part <:+ compared text
  else compared part <:+: compared text

instance (part text : String) : Decidable (OccursIn part text) :=
  inferInstanceAs (Decidable (if '\x00' ∈ part.toList then compared part <:+ compared text
    else compared part <:+: compared text))

section Pattern

variable {character : Char} {part rest : List Char}

/-- Whether a character has a meaning in patterns. -/
def IsSpecial (character : Char) : Prop :=
  character = escapeChar ∨ character = '%' ∨ character = '_'

theorem escapePattern_cons_special (special : IsSpecial character) (part : List Char) :
    escapePattern (character :: part) = escapeChar :: character :: escapePattern part := by
  rcases special with rfl | rfl | rfl <;> rfl

theorem escapePattern_cons_plain (plain : ¬IsSpecial character) (part : List Char) :
    escapePattern (character :: part) = character :: escapePattern part := by
  simp only [IsSpecial, not_or] at plain
  simp [escapePattern, plain]

@[simp] theorem upToNull_cons_null (rest : List Char) : upToNull ('\x00' :: rest) = [] := by
  simp [upToNull]

theorem upToNull_cons (visible : character ≠ '\x00') (rest : List Char) :
    upToNull (character :: rest) = character :: upToNull rest := by
  simp [upToNull, visible]

theorem upToNull_of_notMem (absent : '\x00' ∉ part) : upToNull part = part := by
  apply List.takeWhile_eq_self_iff.mpr
  intro character mem
  simpa using ne_of_mem_of_not_mem mem absent

theorem upToNull_escapePattern_append (part rest : List Char) :
    upToNull (escapePattern part ++ rest) =
      escapePattern (upToNull part) ++ if '\x00' ∈ part then [] else upToNull rest := by
  induction part with
  | nil => simp [escapePattern, upToNull]
  | cons character part ih =>
      by_cases null : character = '\x00'
      · -- A null character is not escaped, so the cut leaves no escape without its partner.
        subst null
        have plain : ¬IsSpecial '\x00' := by simp [IsSpecial, escapeChar]
        rw [escapePattern_cons_plain plain, List.cons_append, upToNull_cons_null,
          upToNull_cons_null]
        simp [escapePattern]
      · have same : ('\x00' ∈ character :: part) = ('\x00' ∈ part) := by
          simp [Ne.symm null]
        rw [upToNull_cons null]
        simp only [same]
        by_cases special : IsSpecial character
        · rw [escapePattern_cons_special special, escapePattern_cons_special special,
            List.cons_append, List.cons_append, upToNull_cons (by decide), upToNull_cons null, ih]
          rfl
        · rw [escapePattern_cons_plain special, escapePattern_cons_plain special, List.cons_append,
            upToNull_cons null, ih]
          rfl

theorem patternItems?_escaped (character : Char) (rest : List Char) :
    patternItems? escapeChar (escapeChar :: character :: rest) =
      (patternItems? escapeChar rest).map (.literal character :: ·) := by
  simp [patternItems?]

theorem patternItems?_plain (plain : ¬IsSpecial character) (rest : List Char) :
    patternItems? escapeChar (character :: rest) =
      (patternItems? escapeChar rest).map (.literal character :: ·) := by
  simp only [IsSpecial, not_or] at plain
  cases rest <;> simp [patternItems?, plain]

theorem patternItems?_anyRun (rest : List Char) :
    patternItems? escapeChar ('%' :: rest) =
      (patternItems? escapeChar rest).map (.anyRun :: ·) := by
  have plain : '%' ≠ escapeChar := by decide
  cases rest <;> simp [patternItems?, plain]

/-- The parts of an escaped text are its characters, whatever follows it. -/
theorem patternItems?_escapePattern_append (part rest : List Char) :
    patternItems? escapeChar (escapePattern part ++ rest) =
      (patternItems? escapeChar rest).map (part.map .literal ++ ·) := by
  induction part with
  | nil => simp [escapePattern]
  | cons character part ih =>
      by_cases special : IsSpecial character
      · rw [escapePattern_cons_special special, List.cons_append, List.cons_append,
          patternItems?_escaped, ih, Option.map_map]
        rfl
      · rw [escapePattern_cons_plain special, List.cons_append, patternItems?_plain special, ih,
          Option.map_map]
        rfl

/-- The parts of the pattern for a literal text: the characters of the text between two runs, and
nothing behind them if a null character cuts the pattern off. -/
def containsItems (part : List Char) : List PatternItem :=
  .anyRun :: ((upToNull part).map .literal ++ if '\x00' ∈ part then [] else [.anyRun])

theorem patternItems?_containsPattern (part : List Char) :
    patternItems? escapeChar (upToNull (containsPattern part)) = some (containsItems part) := by
  unfold containsPattern containsItems
  rw [upToNull_cons (by decide), upToNull_escapePattern_append, patternItems?_anyRun,
    patternItems?_escapePattern_append, Option.map_map]
  by_cases cut : '\x00' ∈ part
  · simp [cut, patternItems?]
  · have run : patternItems? escapeChar (upToNull ['%']) = some [.anyRun] := by decide
    simp [cut, run]

end Pattern

section Match

variable {part text : List Char}

theorem anyRest_iff {condition : List Char → Bool} :
    anyRest condition text = true ↔ ∃ rest, rest <:+ text ∧ condition rest = true := by
  induction text with
  | nil => simp [anyRest]
  | cons character text ih =>
      simp only [anyRest, Bool.or_eq_true, ih, List.suffix_cons_iff]
      constructor
      · rintro (here | ⟨rest, suffix, later⟩)
        · exact ⟨_, .inl rfl, here⟩
        · exact ⟨rest, .inr suffix, later⟩
      · rintro ⟨rest, rfl | suffix, holds⟩
        · exact .inl holds
        · exact .inr ⟨rest, suffix, holds⟩

theorem matchesItems_literals_append {items : List PatternItem} :
    matchesItems (part.map .literal ++ items) text = true ↔
      ∃ front rest, text = front ++ rest ∧ part.map comparedChar = front.map comparedChar ∧
        matchesItems items rest = true := by
  induction part generalizing text with
  | nil =>
      constructor
      · intro holds
        exact ⟨[], text, rfl, rfl, holds⟩
      · rintro ⟨front, rest, rfl, same, holds⟩
        rw [List.map_eq_nil_iff.mp same.symm]
        exact holds
  | cons expected part ih =>
      cases text with
      | nil =>
          constructor
          · intro holds
            contradiction
          · rintro ⟨front, rest, split, same, _⟩
            rw [(List.append_eq_nil_iff.mp split.symm).1] at same
            contradiction
      | cons character text =>
          simp only [List.map_cons, List.cons_append, matchesItems, Bool.and_eq_true,
            decide_eq_true_eq, ih]
          constructor
          · rintro ⟨first, front, rest, rfl, same, holds⟩
            exact ⟨character :: front, rest, rfl, by simp [first, same], holds⟩
          · rintro ⟨front, rest, split, same, holds⟩
            cases front with
            | nil => contradiction
            | cons first front =>
                rcases List.cons_eq_cons.mp split with ⟨rfl, rfl⟩
                rcases List.cons_eq_cons.mp same with ⟨sameFirst, sameRest⟩
                exact ⟨sameFirst.symm, front, rest, rfl, sameRest, holds⟩

theorem matchesItems_anyRun : matchesItems [.anyRun] text = true := by
  apply anyRest_iff.mpr
  exact ⟨[], List.nil_suffix, rfl⟩

theorem matchesItems_ending :
    matchesItems (.anyRun :: part.map .literal) text = true ↔
      part.map comparedChar <:+ text.map comparedChar := by
  have whole (rest : List Char) : matchesItems (part.map .literal) rest = true ↔
      part.map comparedChar = rest.map comparedChar := by
    have split : matchesItems (part.map .literal ++ []) rest = true ↔ _ :=
      matchesItems_literals_append
    rw [List.append_nil] at split
    rw [split]
    constructor
    · rintro ⟨front, after, rfl, same, empty⟩
      rw [List.isEmpty_iff.mp empty, List.append_nil]
      exact same
    · intro same
      exact ⟨rest, [], by simp, same, rfl⟩
  rw [matchesItems, anyRest_iff, List.suffix_map_iff]
  simp only [whole]

theorem matchesItems_inside :
    matchesItems (.anyRun :: (part.map .literal ++ [.anyRun])) text = true ↔
      part.map comparedChar <:+: text.map comparedChar := by
  rw [matchesItems, anyRest_iff, List.infix_map_iff]
  constructor
  · rintro ⟨rest, suffix, holds⟩
    rcases matchesItems_literals_append.mp holds with ⟨front, after, rfl, same, _⟩
    exact ⟨front, (List.prefix_append front after).isInfix.trans suffix.isInfix, same⟩
  · rintro ⟨found, ⟨before, after, rfl⟩, same⟩
    refine ⟨found ++ after, ⟨before, (List.append_assoc _ _ _).symm⟩, ?_⟩
    exact matchesItems_literals_append.mpr ⟨found, after, rfl, same, matchesItems_anyRun⟩

end Match

variable {part text : String}

theorem contains_iff : contains text part = true ↔ OccursIn part text := by
  unfold contains matchesPattern OccursIn compared
  rw [patternItems?_containsPattern]
  by_cases cut : '\x00' ∈ part.toList
  · simp only [containsItems, cut, if_true, List.append_nil]
    exact matchesItems_ending
  · simp only [containsItems, cut, if_false]
    exact matchesItems_inside

/-- A text without characters that are not compared as they are. -/
def IsPlain (text : String) : Prop :=
  ∀ character ∈ text.toList, character ≠ '\x00' ∧ character ≠ '\ufffe' ∧ character ≠ '\uffff'

-- By the characters of the text: an instance that is searched may go through all there are.
instance (text : String) : Decidable (IsPlain text) := List.decidableBAll _ _

theorem compared_of_isPlain (plain : IsPlain text) :
    compared text = text.toList.map Char.toLower := by
  have visible : '\x00' ∉ text.toList := fun mem => (plain _ mem).1 rfl
  unfold compared
  rw [upToNull_of_notMem visible]
  apply List.map_congr_left
  intro character mem
  simp [comparedChar, plain character mem]

/-- A plain text occurs in another one as a literal part up to the case of ASCII letters. -/
theorem occursIn_iff_of_isPlain (partPlain : IsPlain part) (textPlain : IsPlain text) :
    OccursIn part text ↔ part.toList.map Char.toLower <:+: text.toList.map Char.toLower := by
  have visible : '\x00' ∉ part.toList := fun mem => (partPlain _ mem).1 rfl
  unfold OccursIn
  rw [if_neg visible, compared_of_isPlain partPlain, compared_of_isPlain textPlain]

end DeliveryCycle.Text
