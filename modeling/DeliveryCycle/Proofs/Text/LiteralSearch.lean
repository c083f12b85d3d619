import DeliveryCycle.Proofs.Text.Occurrence

/-!
# What a search pattern finds

`Reads` and `Suits` say what a search pattern means, without a matcher: how its characters are read
as parts, and which texts fit to the parts. The matcher finds exactly these texts, whatever the
pattern, by `matchesPattern_iff`. The pattern for a literal text is read as the characters of that
text between two runs, so that none of its characters acts as a part of another kind; hence it finds
the texts in which the literal text occurs, by `search_finds_literal_part`.
-/

namespace DeliveryCycle.Text

/-- How a pattern is read: the character behind an escape character stands for itself, and so does
every character without a meaning. -/
inductive Reads (escape : Char) : List Char → List PatternItem → Prop
  | done : Reads escape [] []
  | escaped (character : Char) {rest : List Char} {items : List PatternItem} :
      Reads escape rest items →
      Reads escape (escape :: character :: rest) (.literal character :: items)
  | anyRun {rest : List Char} {items : List PatternItem} : '%' ≠ escape →
      Reads escape rest items → Reads escape ('%' :: rest) (.anyRun :: items)
  | anyOne {rest : List Char} {items : List PatternItem} : '_' ≠ escape →
      Reads escape rest items → Reads escape ('_' :: rest) (.anyOne :: items)
  | plain {character : Char} {rest : List Char} {items : List PatternItem} :
      character ≠ escape → character ≠ '%' → character ≠ '_' →
      Reads escape rest items → Reads escape (character :: rest) (.literal character :: items)

/-- Which texts fit to the parts of a pattern. -/
inductive Suits : List PatternItem → List Char → Prop
  | done : Suits [] []
  | anyRun (run : List Char) {items : List PatternItem} {rest : List Char} :
      Suits items rest → Suits (.anyRun :: items) (run ++ rest)
  | anyOne (character : Char) {items : List PatternItem} {rest : List Char} :
      Suits items rest → Suits (.anyOne :: items) (character :: rest)
  | literal {character expected : Char} {items : List PatternItem} {rest : List Char} :
      comparedChar character = comparedChar expected →
      Suits items rest → Suits (.literal expected :: items) (character :: rest)

section Pattern

variable {escape : Char} {pattern text : List Char} {items : List PatternItem}

/-- The part that a character gives which is not the escape character. -/
def unescapedItem (character : Char) : PatternItem :=
  if character = '%' then .anyRun else if character = '_' then .anyOne else .literal character

theorem patternItems?_unescaped {character : Char} (unescaped : character ≠ escape)
    (rest : List Char) :
    patternItems? escape (character :: rest) =
      (patternItems? escape rest).map (unescapedItem character :: ·) := by
  cases rest with
  | nil =>
      simp only [patternItems?, unescaped, if_false, unescapedItem, Option.map_some]
      split
      · rfl
      · split <;> rfl
  | cons next rest =>
      simp only [patternItems?, unescaped, if_false, unescapedItem]
      split
      · rfl
      · split <;> rfl

theorem Reads.unescaped {character : Char} {rest : List Char} (differs : character ≠ escape)
    (reads : Reads escape rest items) :
    Reads escape (character :: rest) (unescapedItem character :: items) := by
  unfold unescapedItem
  split
  · rename_i isRun
    exact isRun ▸ .anyRun (isRun ▸ differs) reads
  · split
    · rename_i isOne
      exact isOne ▸ .anyOne (isOne ▸ differs) reads
    · rename_i noRun noOne
      exact .plain differs noRun noOne reads

theorem reads_of_patternItems? : {pattern : List Char} → {items : List PatternItem} →
    patternItems? escape pattern = some items → Reads escape pattern items
  | [], items, read => by
      rcases Option.some.inj read with rfl
      exact .done
  | character :: rest, items, read => by
      by_cases escapes : character = escape
      · subst character
        cases rest with
        | nil => simp [patternItems?] at read
        | cons next rest =>
            simp only [patternItems?, if_true, Option.map_eq_some_iff] at read
            rcases read with ⟨later, laterRead, rfl⟩
            exact .escaped next (reads_of_patternItems? laterRead)
      · rw [patternItems?_unescaped escapes, Option.map_eq_some_iff] at read
        rcases read with ⟨later, laterRead, rfl⟩
        exact (reads_of_patternItems? laterRead).unescaped escapes

theorem patternItems?_eq_some_iff :
    patternItems? escape pattern = some items ↔ Reads escape pattern items := by
  refine ⟨reads_of_patternItems?, ?_⟩
  intro reads
  induction reads with
  | done => rfl
  | escaped character _ ih => simp [patternItems?, ih]
  | anyRun differs _ ih => simp [patternItems?_unescaped differs, ih, unescapedItem]
  | anyOne differs _ ih => simp [patternItems?_unescaped differs, ih, unescapedItem]
  | plain differs noRun noOne _ ih =>
      simp [patternItems?_unescaped differs, ih, unescapedItem, noRun, noOne]

theorem matchesItems_iff : matchesItems items text = true ↔ Suits items text := by
  induction items generalizing text with
  | nil =>
      constructor
      · intro holds
        rcases List.isEmpty_iff.mp holds with rfl
        exact .done
      · intro suits
        cases suits
        rfl
  | cons item items ih =>
      cases item with
      | anyRun =>
          rw [matchesItems, anyRest_iff]
          constructor
          · rintro ⟨rest, ⟨run, rfl⟩, holds⟩
            exact .anyRun run (ih.mp holds)
          · intro suits
            cases suits with
            | anyRun run suits => exact ⟨_, List.suffix_append run _, ih.mpr suits⟩
      | anyOne =>
          constructor
          · intro holds
            cases text with
            | nil => contradiction
            | cons character rest => exact .anyOne character (ih.mp holds)
          · intro suits
            cases suits with
            | anyOne character suits => exact ih.mpr suits
      | literal expected =>
          constructor
          · intro holds
            cases text with
            | nil => contradiction
            | cons character rest =>
                rw [matchesItems, Bool.and_eq_true, decide_eq_true_eq] at holds
                exact .literal holds.1 (ih.mp holds.2)
          · intro suits
            cases suits with
            | literal same suits =>
                rw [matchesItems, Bool.and_eq_true, decide_eq_true_eq]
                exact ⟨same, ih.mpr suits⟩

/-- The matcher finds the texts that fit to the pattern as it is read. -/
theorem matchesPattern_iff :
    matchesPattern escape pattern text = true ↔
      ∃ items, Reads escape (upToNull pattern) items ∧ Suits items (upToNull text) := by
  unfold matchesPattern
  simp only [← patternItems?_eq_some_iff, ← matchesItems_iff]
  cases patternItems? escape (upToNull pattern) with
  | none => simp
  | some items => simp

end Pattern

/-- The search for a literal text reads it as its own characters between two runs, finds the texts
that fit, and so exactly those in which the literal text occurs as they are compared. For texts that
are compared as they are this is the occurrence up to the case of ASCII letters. -/
theorem search_finds_literal_part (part text : String) :
    Reads escapeChar (upToNull (containsPattern part.toList)) (containsItems part.toList) ∧
    (contains text part = true ↔ ∃ items,
      Reads escapeChar (upToNull (containsPattern part.toList)) items ∧
        Suits items (upToNull text.toList)) ∧
    (contains text part = true ↔ OccursIn part text) ∧
    (IsPlain part → IsPlain text → (contains text part = true ↔
      part.toList.map Char.toLower <:+: text.toList.map Char.toLower)) := by
  refine ⟨patternItems?_eq_some_iff.mp (patternItems?_containsPattern part.toList),
    matchesPattern_iff, contains_iff, ?_⟩
  intro partPlain textPlain
  rw [contains_iff, occursIn_iff_of_isPlain partPlain textPlain]

/-- Characters with a meaning in patterns are found as they are, and find nothing else. -/
theorem search_finds_special_characters :
    IsPlain "a%_/" ∧ IsPlain "x A%_/b" ∧ IsPlain "x abc/b" ∧
      contains "x A%_/b" "a%_/" = true ∧ ¬contains "x abc/b" "a%_/" = true := by
  have partPlain : IsPlain "a%_/" := by decide
  have textPlain : IsPlain "x A%_/b" := by decide
  have otherPlain : IsPlain "x abc/b" := by decide
  refine ⟨partPlain, textPlain, otherPlain, ?_, ?_⟩
  · rw [(search_finds_literal_part _ _).2.2.2 partPlain textPlain]
    decide
  · rw [(search_finds_literal_part _ _).2.2.2 partPlain otherPlain]
    decide

/-- A search does not find what stands behind a null character. -/
theorem not_forall_found_iff_infix :
    ¬∀ part text : String, part ≠ "" → (contains text part = true ↔
      part.toList.map Char.toLower <:+: text.toList.map Char.toLower) := by
  intro exactly
  have missed : contains "y\x00b" "b" = false := by decide
  have found := (exactly "b" "y\x00b" (by decide)).mpr (by decide)
  rw [missed] at found
  contradiction

end DeliveryCycle.Text
