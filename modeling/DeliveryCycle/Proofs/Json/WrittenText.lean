import DeliveryCycle.Json.Reader
import DeliveryCycle.Json.Writer
import DeliveryCycle.Proofs.Text.Codes
import Mathlib

/-!
# Texts within ASCII, written and read

Between quotes a text is written code by code. `Spells` says what may stand for a code: the
character itself, a letter behind a backslash, the escape of a unit, or those of two surrogates.
Every spelling consists of printable characters of ASCII, and the reader knows where it ends.

Two surrogates that make a pair are spelled like the character that they stand for, so that what is
read is the text with its pairs joined, by `readCodes_writeCodes`. A text of characters has no
surrogates and is read as it was.
-/

namespace DeliveryCycle

namespace Json

open Text

/-- How a code may be written between the quotes of a text that is kept within ASCII. -/
inductive Spells : Nat → List Char → Prop
  | plain {character : Char} (printable : IsPrintableAscii character) (noQuote : character ≠ '"')
      (noBackslash : character ≠ '\\') : Spells character.toNat [character]
  | letter {code : Nat} {letter : Char} (escaped : escapedCode? letter.toNat = some code) :
      Spells code ['\\', letter]
  | unit {code : Nat} (narrow : code < 0x10000) : Spells code (unitEscape code)
  | pair {high low : Nat} (isHigh : isHighSurrogate high = true)
      (isLow : isLowSurrogate low = true) :
      Spells (joinSurrogates high low) (unitEscape high ++ unitEscape low)

/-- A code as it is written between the quotes of a text that is kept within ASCII. -/
def writeCode (code : Nat) : List Char :=
  if isSurrogate code then unitEscape code else writeChar true (Char.ofNat code)

section Written

variable {code high low : Nat} {codes : List Nat} {written : List Char}

theorem writeCodes_spaced (codes : List Nat) :
    writeCodes Layout.spaced codes = '"' :: (codes.flatMap writeCode ++ ['"']) := rfl

theorem writeText_eq_writeCodes (text : String) :
    writeText true text = writeCodes Layout.spaced (text.toList.map Char.toNat) := by
  have same (character : Char) : writeCode character.toNat = writeChar true character := by
    rw [writeCode, (toNat_valid character).2, if_neg Bool.false_ne_true, Char.ofNat_toNat]
  rw [writeCodes_spaced, List.flatMap_map]
  simp only [writeText, same]

theorem codeEscape_eq_pair (isHigh : isHighSurrogate high = true)
    (isLow : isLowSurrogate low = true) :
    codeEscape (joinSurrogates high low) = unitEscape high ++ unitEscape low := by
  have wide := (joinSurrogates_bounds isHigh isLow).1
  rw [isHighSurrogate_iff] at isHigh
  rw [isLowSurrogate_iff] at isLow
  have highPart : 0xD800 + (joinSurrogates high low - 0x10000) / 0x400 = high := by
    unfold joinSurrogates
    omega
  have lowPart : 0xDC00 + (joinSurrogates high low - 0x10000) % 0x400 = low := by
    unfold joinSurrogates
    omega
  rw [codeEscape, if_neg (by omega), highPart, lowPart]

theorem exists_pair (wide : 0x10000 ≤ code) (isCode : code < 0x110000) :
    ∃ high low, isHighSurrogate high = true ∧ isLowSurrogate low = true ∧
      joinSurrogates high low = code := by
  refine ⟨0xD800 + (code - 0x10000) / 0x400, 0xDC00 + (code - 0x10000) % 0x400, ?_, ?_, ?_⟩
  · rw [isHighSurrogate_iff]
    omega
  · rw [isLowSurrogate_iff]
    omega
  · unfold joinSurrogates
    omega

theorem spells_codeEscape (isCode : code < 0x110000) : Spells code (codeEscape code) := by
  by_cases narrow : code < 0x10000
  · rw [codeEscape, if_pos narrow]
    exact .unit narrow
  · rcases exists_pair (by omega) isCode with ⟨high, low, isHigh, isLow, rfl⟩
    rw [codeEscape_eq_pair isHigh isLow]
    exact .pair isHigh isLow

theorem spells_writeChar (character : Char) :
    Spells character.toNat (writeChar true character) := by
  have isCode := (toNat_valid character).1
  unfold writeChar
  iterate 7 split; · subst character; exact .letter rfl
  split
  · exact spells_codeEscape isCode
  split
  · exact spells_codeEscape isCode
  · rename_i noQuote noBackslash _ _ _ _ _ notControl ascii
    refine .plain ?_ noQuote noBackslash
    rw [isPrintableAscii_iff]
    simp only [Bool.true_and, decide_eq_true_eq] at ascii
    omega

theorem spells_writeCode (isCode : code < 0x110000) : Spells code (writeCode code) := by
  unfold writeCode
  split
  · rename_i surrogate
    rw [isSurrogate_iff] at surrogate
    exact .unit (by omega)
  · rename_i noSurrogate
    have spelled := spells_writeChar (Char.ofNat code)
    rwa [toNat_ofNat isCode (Bool.eq_false_iff.mpr noSurrogate)] at spelled

theorem Spells.length_pos (spelled : Spells code written) : 0 < written.length := by
  cases spelled with
  | plain | letter | unit | pair => exact Nat.zero_lt_succ _

theorem toNat_hexDigit {value : Nat} (small : value < 16) :
    (hexDigit value).toNat = if value < 10 then 48 + value else 87 + value := by
  have plain (code : Nat) (low : code < 0x80) : isSurrogate code = false := by
    rw [Bool.eq_false_iff, ne_eq, isSurrogate_iff]
    omega
  unfold hexDigit
  split
  · exact toNat_ofNat (by omega) (plain _ (by omega))
  · exact toNat_ofNat (by omega) (plain _ (by omega))

theorem isAsciiLine_hexDigits (width number : Nat) : IsAsciiLine (hexDigits width number) := by
  induction width generalizing number with
  | zero => exact List.forall_mem_nil _
  | succ width ih =>
      rw [hexDigits, isAsciiLine_append, isAsciiLine_cons, isPrintableAscii_iff,
        toNat_hexDigit (Nat.mod_lt _ (by decide))]
      refine ⟨ih _, ?_, List.forall_mem_nil _⟩
      split <;> omega

theorem isAsciiLine_unitEscape (unit : Nat) : IsAsciiLine (unitEscape unit) := by
  rw [unitEscape, isAsciiLine_cons, isAsciiLine_cons]
  exact ⟨by decide, by decide, isAsciiLine_hexDigits 4 unit⟩

theorem isAsciiLine_codeEscape (code : Nat) : IsAsciiLine (codeEscape code) := by
  unfold codeEscape
  split
  · exact isAsciiLine_unitEscape code
  · exact isAsciiLine_append.mpr ⟨isAsciiLine_unitEscape _, isAsciiLine_unitEscape _⟩

theorem mem_of_escapedCode? {letter : Nat} (escaped : escapedCode? letter = some code) :
    letter ∈ [0x22, 0x5C, 0x2F, 0x62, 0x66, 0x6E, 0x72, 0x74] := by
  by_contra other
  simp only [List.mem_cons, List.not_mem_nil, or_false, not_or] at other
  simp [escapedCode?, other] at escaped

theorem Spells.isAsciiLine (spelled : Spells code written) : IsAsciiLine written := by
  cases spelled with
  | plain printable => exact isAsciiLine_cons.mpr ⟨printable, List.forall_mem_nil _⟩
  | @letter _ letter escaped =>
      have letters := mem_of_escapedCode? escaped
      simp only [List.mem_cons, List.not_mem_nil, or_false] at letters
      have printable : IsPrintableAscii letter := by
        rw [isPrintableAscii_iff]
        omega
      rw [isAsciiLine_cons, isAsciiLine_cons]
      exact ⟨by decide, printable, List.forall_mem_nil _⟩
  | unit => exact isAsciiLine_unitEscape code
  | pair => exact isAsciiLine_append.mpr ⟨isAsciiLine_unitEscape _, isAsciiLine_unitEscape _⟩

theorem writeCode_joinSurrogates (isHigh : isHighSurrogate high = true)
    (isLow : isLowSurrogate low = true) :
    writeCode (joinSurrogates high low) = writeCode high ++ writeCode low := by
  have bounds := joinSurrogates_bounds isHigh isLow
  have noSurrogate : isSurrogate (joinSurrogates high low) = false := by
    rw [Bool.eq_false_iff, ne_eq, isSurrogate_iff]
    omega
  have highSurrogate : isSurrogate high = true := by
    rw [isHighSurrogate_iff] at isHigh
    rw [isSurrogate_iff]
    omega
  have lowSurrogate : isSurrogate low = true := by
    rw [isLowSurrogate_iff] at isLow
    rw [isSurrogate_iff]
    omega
  have code : (Char.ofNat (joinSurrogates high low)).toNat = joinSurrogates high low :=
    toNat_ofNat bounds.2 noSurrogate
  have differs (other : Char) (narrow : other.toNat < 0x10000) :
      Char.ofNat (joinSurrogates high low) ≠ other := by
    intro same
    rw [← same, code] at narrow
    omega
  have escaped : writeChar true (Char.ofNat (joinSurrogates high low)) =
      codeEscape (joinSurrogates high low) := by
    unfold writeChar
    iterate 7 rw [if_neg (differs _ (by decide))]
    rw [code, if_neg (by omega), if_pos]
    rw [Bool.true_and, decide_eq_true_eq]
    omega
  simp only [writeCode, noSurrogate, highSurrogate, lowSurrogate, if_true, Bool.false_eq_true,
    if_false, escaped, codeEscape_eq_pair isHigh isLow]

theorem flatMap_writeCode_joined (codes : List Nat) :
    (joined codes).flatMap writeCode = codes.flatMap writeCode := by
  fun_induction joined codes with
  | case1 high low rest pair ih =>
      rw [Bool.and_eq_true] at pair
      rw [List.flatMap_cons, ih, writeCode_joinSurrogates pair.1 pair.2]
      simp only [List.flatMap_cons, List.append_assoc]
  | case2 high low rest _ ih => rw [List.flatMap_cons, ih, ← List.flatMap_cons]
  | case3 codes => rfl

theorem writeCodes_joined (codes : List Nat) :
    writeCodes Layout.spaced (joined codes) = writeCodes Layout.spaced codes := by
  rw [writeCodes_spaced, writeCodes_spaced, flatMap_writeCode_joined]

theorem length_le_flatMap_writeCode (areCodes : AreCodes codes) :
    codes.length ≤ (codes.flatMap writeCode).length := by
  induction codes with
  | nil => exact Nat.zero_le 0
  | cons code rest ih =>
      have written := (spells_writeCode (areCodes code List.mem_cons_self)).length_pos
      have later := ih fun code mem => areCodes code (List.mem_cons_of_mem _ mem)
      rw [List.flatMap_cons, List.length_append, List.length_cons]
      omega

theorem isAsciiLine_writeCodes (areCodes : AreCodes codes) :
    IsAsciiLine (writeCodes Layout.spaced codes) := by
  rw [writeCodes_spaced, isAsciiLine_cons, isAsciiLine_append]
  refine ⟨by decide, ?_, by decide⟩
  intro character mem
  rcases List.mem_flatMap.mp mem with ⟨code, codeMem, mem⟩
  exact (spells_writeCode (areCodes code codeMem)).isAsciiLine character mem

end Written

section Read

variable {dialect : Dialect} {code unit high low : Nat} {codes rest : List Nat}
  {written : List Char}

/-- Whether the codes of a text are accepted in a dialect. -/
def Dialect.Accepts (dialect : Dialect) (codes : List Nat) : Prop :=
  dialect.unpaired = true ∨ ∀ code ∈ codes, isSurrogate code = false

/-- No escape of the second surrogate of a pair stands at the start of a text. -/
def IsFreeOfLow (text : List Nat) : Prop :=
  ∀ unit behind, (dropWord? ['\\', 'u'] text).bind readUnit? = some (unit, behind) →
    isLowSurrogate unit = false

theorem hexCodeValue?_hexDigit {value : Nat} (small : value < 16) :
    hexCodeValue? (hexDigit value).toNat = some value := by
  rw [hexCodeValue?, charOfCode_toNat, hexValue?, toNat_hexDigit small]
  by_cases isDecimal : value < 10
  · rw [if_pos isDecimal, if_pos, Nat.add_sub_cancel_left]
    simp only [Bool.and_eq_true, decide_eq_true_eq]
    omega
  · rw [if_neg isDecimal, if_neg, if_pos, Nat.add_sub_cancel_left]
    · simp only [Bool.and_eq_true, decide_eq_true_eq]
      omega
    · simp only [Bool.and_eq_true, decide_eq_true_eq]
      omega

theorem readUnit?_hexDigits (narrow : unit < 0x10000) (rest : List Nat) :
    readUnit? ((hexDigits 4 unit).map Char.toNat ++ rest) = some (unit, rest) := by
  have value : ((unit / 16 / 16 / 16 % 16 * 16 + unit / 16 / 16 % 16) * 16 + unit / 16 % 16) * 16 +
      unit % 16 = unit := by
    omega
  simp only [hexDigits, List.nil_append, List.cons_append, List.map_cons, List.map_nil, readUnit?,
    hexCodeValue?_hexDigit (Nat.mod_lt _ (by decide : 0 < 16)), Option.bind_eq_bind,
    Option.bind_some, value]
  rfl

theorem ne_of_escapedCode? {letter : Nat} (escaped : escapedCode? letter = some code) :
    letter ≠ 'u'.toNat := by
  rintro rfl
  exact absurd (mem_of_escapedCode? escaped) (by decide)

theorem isFreeOfLow_of_ne {first : Nat} (noEscape : first ≠ Sign.backslash) (rest : List Nat) :
    IsFreeOfLow (first :: rest) := by
  intro unit behind read
  have noWord : dropWord? ['\\', 'u'] (first :: rest) = none := if_neg noEscape
  rw [noWord] at read
  cases read

theorem isFreeOfLow_unitEscape (narrow : unit < 0x10000) (noLow : isLowSurrogate unit = false)
    (rest : List Nat) : IsFreeOfLow ((unitEscape unit).map Char.toNat ++ rest) := by
  intro found behind read
  have word : dropWord? ['\\', 'u'] ((unitEscape unit).map Char.toNat ++ rest) =
      some ((hexDigits 4 unit).map Char.toNat ++ rest) := rfl
  rw [word, Option.bind_some, readUnit?_hexDigits narrow] at read
  cases read
  exact noLow

theorem Spells.isFreeOfLow (spelled : Spells code written) (noLow : isLowSurrogate code = false)
    (rest : List Nat) : IsFreeOfLow (written.map Char.toNat ++ rest) := by
  cases spelled with
  | @plain character _ _ noBackslash =>
      apply isFreeOfLow_of_ne
      intro same
      exact noBackslash (Char.toNat_inj.mp same)
  | @letter _ letter escaped =>
      intro unit behind read
      have noWord : dropWord? ['\\', 'u'] (['\\', letter].map Char.toNat ++ rest) = none :=
        if_neg (ne_of_escapedCode? escaped)
      rw [noWord] at read
      cases read
  | unit narrow => exact isFreeOfLow_unitEscape narrow noLow rest
  | @pair high low isHigh _ =>
      rw [isHighSurrogate_iff] at isHigh
      rw [List.map_append, List.append_assoc]
      apply isFreeOfLow_unitEscape (by omega)
      rw [Bool.eq_false_iff, ne_eq, isLowSurrogate_iff]
      omega

theorem readCode_unit (narrow : unit < 0x10000)
    (accepted : dialect.unpaired = true ∨ isSurrogate unit = false)
    (apart : isHighSurrogate unit = true → IsFreeOfLow rest) :
    readCode dialect ((hexDigits 4 unit).map Char.toNat ++ rest) = .ok (unit, rest) := by
  have allowed : (isSurrogate unit && !dialect.unpaired) = false := by
    rcases accepted with unpaired | noSurrogate
    · rw [unpaired, Bool.not_true, Bool.and_false]
    · rw [noSurrogate, Bool.false_and]
  rw [readCode, readUnit?_hexDigits narrow]
  dsimp only
  split
  · rename_i low behind next
    have noPair : (isHighSurrogate unit && isLowSurrogate low) = false := by
      rw [Bool.and_eq_false_iff]
      by_cases isHigh : isHighSurrogate unit = true
      · exact .inr (apart isHigh low behind next)
      · exact .inl (Bool.eq_false_iff.mpr isHigh)
    rw [noPair, allowed]
    rfl
  · rw [allowed]
    rfl

theorem readCode_pair (isHigh : isHighSurrogate high = true) (isLow : isLowSurrogate low = true)
    (rest : List Nat) :
    readCode dialect ((hexDigits 4 high).map Char.toNat ++
      ((unitEscape low).map Char.toNat ++ rest)) = .ok (joinSurrogates high low, rest) := by
  have word : dropWord? ['\\', 'u'] ((unitEscape low).map Char.toNat ++ rest) =
      some ((hexDigits 4 low).map Char.toNat ++ rest) := rfl
  have highNarrow : high < 0x10000 := by
    rw [isHighSurrogate_iff] at isHigh
    omega
  have lowNarrow : low < 0x10000 := by
    rw [isLowSurrogate_iff] at isLow
    omega
  rw [readCode, readUnit?_hexDigits highNarrow]
  dsimp only
  rw [word, Option.bind_some, readUnit?_hexDigits lowNarrow]
  dsimp only
  rw [isHigh, isLow]
  rfl

theorem readCodes_escape {fuel : Nat} {text : List Nat}
    (read : readEscape dialect text = .ok (code, rest)) :
    readCodes dialect (fuel + 1) (Sign.backslash :: text) =
      (readCodes dialect fuel rest).map fun result => (code :: result.1, result.2) := by
  have noQuote : Sign.backslash ≠ Sign.quote := by decide
  rw [readCodes, if_neg noQuote, if_pos rfl, read]
  simp only [bind, Except.bind]
  cases readCodes dialect fuel rest <;> rfl

theorem readCodes_plain {fuel : Nat} (noQuote : code ≠ Sign.quote)
    (noBackslash : code ≠ Sign.backslash) (noControl : 0x20 ≤ code) :
    readCodes dialect (fuel + 1) (code :: rest) =
      (readCodes dialect fuel rest).map fun result => (code :: result.1, result.2) := by
  rw [readCodes, if_neg noQuote, if_neg noBackslash, if_neg (Nat.not_lt.mpr noControl)]
  cases readCodes dialect fuel rest <;> rfl

/-- A step takes one code, however it is spelled. -/
theorem readCodes_spelled (spelled : Spells code written)
    (accepted : dialect.unpaired = true ∨ isSurrogate code = false)
    (apart : isHighSurrogate code = true → IsFreeOfLow rest) (fuel : Nat) :
    readCodes dialect (fuel + 1) (written.map Char.toNat ++ rest) =
      (readCodes dialect fuel rest).map fun result => (code :: result.1, result.2) := by
  cases spelled with
  | @plain character printable noQuote noBackslash =>
      apply readCodes_plain
      · intro same
        exact noQuote (Char.toNat_inj.mp same)
      · intro same
        exact noBackslash (Char.toNat_inj.mp same)
      · exact (isPrintableAscii_iff.mp printable).1
  | @letter _ letter escaped =>
      have read : readEscape dialect (letter.toNat :: rest) = .ok (code, rest) := by
        rw [readEscape, if_neg (ne_of_escapedCode? escaped), escaped]
      exact readCodes_escape read
  | unit narrow => exact readCodes_escape (readCode_unit narrow accepted apart)
  | pair isHigh isLow =>
      rw [List.map_append, List.append_assoc]
      exact readCodes_escape (readCode_pair isHigh isLow rest)

theorem readCodes_flatMap_writeCode (areCodes : AreCodes codes) (noPair : HasNoPair codes)
    (accepted : dialect.Accepts codes) {fuel : Nat} (enough : codes.length < fuel)
    (rest : List Nat) :
    readCodes dialect fuel ((codes.flatMap writeCode).map Char.toNat ++ Sign.quote :: rest) =
      .ok (codes, rest) := by
  induction codes generalizing fuel with
  | nil =>
      obtain ⟨fuel, rfl⟩ : ∃ less, fuel = less + 1 := ⟨fuel - 1, by simp at enough; omega⟩
      rfl
  | cons code later ih =>
      obtain ⟨fuel, rfl⟩ : ∃ less, fuel = less + 1 := ⟨fuel - 1, by simp at enough; omega⟩
      have isCode := areCodes code List.mem_cons_self
      have areCodesLater : AreCodes later := fun code mem =>
        areCodes code (List.mem_cons_of_mem _ mem)
      -- Behind a high surrogate the reader looks at the next escape, which must not be a low one.
      have apart : isHighSurrogate code = true →
          IsFreeOfLow ((later.flatMap writeCode).map Char.toNat ++ Sign.quote :: rest) := by
        intro isHigh
        cases later with
        | nil => exact isFreeOfLow_of_ne (by decide) rest
        | cons next others =>
            have noLow : isLowSurrogate next = false := by
              rw [Bool.eq_false_iff]
              intro isLow
              exact (List.isChain_cons_cons.mp noPair).1 ⟨isHigh, isLow⟩
            rw [List.flatMap_cons, List.map_append, List.append_assoc]
            exact (spells_writeCode (areCodesLater next List.mem_cons_self)).isFreeOfLow noLow _
      have acceptedFirst : dialect.unpaired = true ∨ isSurrogate code = false :=
        accepted.imp id fun none => none code List.mem_cons_self
      have acceptedLater : dialect.Accepts later :=
        accepted.imp id fun none code mem => none code (List.mem_cons_of_mem _ mem)
      rw [List.flatMap_cons, List.map_append, List.append_assoc,
        readCodes_spelled (spells_writeCode isCode) acceptedFirst apart,
        ih areCodesLater noPair.tail acceptedLater (Nat.lt_of_succ_lt_succ enough)]
      rfl

/-- A text between its quotes is read with its pairs joined, up to its closing quote. -/
theorem readCodes_writeCodes (areCodes : AreCodes codes) (accepted : dialect.Accepts (joined codes))
    {fuel : Nat} (enough : (writeCodes Layout.spaced codes).length ≤ fuel + 1) (rest : List Nat) :
    ∃ behind, (writeCodes Layout.spaced codes).map Char.toNat ++ rest = Sign.quote :: behind ∧
      readCodes dialect fuel behind = .ok (joined codes, rest) := by
  have areCodesJoined := areCodes_joined areCodes
  have length := length_le_flatMap_writeCode areCodesJoined
  rw [← writeCodes_joined, writeCodes_spaced] at enough ⊢
  simp only [List.length_cons, List.length_append, List.length_nil] at enough
  refine ⟨((joined codes).flatMap writeCode).map Char.toNat ++ Sign.quote :: rest, ?_, ?_⟩
  · rw [List.map_cons, List.map_append, List.cons_append, List.append_assoc]
    rfl
  · exact readCodes_flatMap_writeCode areCodesJoined (hasNoPair_joined codes) accepted (by omega)
      rest

end Read

end Json

end DeliveryCycle
