import DeliveryCycle.Text.Surrogate
import Mathlib

/-!
# Texts of codes

A text may be a list of codes, of which some are surrogates. Two of these that make a pair stand for
one character, and `joined` puts its code in their place. The codes of a string hold no surrogates,
so nothing is joined there.
-/

namespace DeliveryCycle

namespace Text

/-- The codes of a text, with one code in the place of two surrogates that make a pair. -/
def joined : List Nat → List Nat
  | high :: low :: rest =>
      if isHighSurrogate high && isLowSurrogate low then joinSurrogates high low :: joined rest
      else high :: joined (low :: rest)
  | codes => codes

/-- No two surrogates that stand together make a pair. -/
def HasNoPair (codes : List Nat) : Prop :=
  codes.IsChain fun first second => ¬(isHighSurrogate first = true ∧ isLowSurrogate second = true)

/-- The codes are those of characters and of surrogates. -/
def AreCodes (codes : List Nat) : Prop := ∀ code ∈ codes, code < 0x110000

/-- A character is a printable one of ASCII; none of these ends a line. -/
def IsPrintableAscii (character : Char) : Prop := ' ' ≤ character ∧ character ≤ '~'

instance (character : Char) : Decidable (IsPrintableAscii character) :=
  inferInstanceAs (Decidable (_ ∧ _))

/-- The text of a single line: it consists of printable characters of ASCII. -/
def IsAsciiLine (text : List Char) : Prop := ∀ character ∈ text, IsPrintableAscii character

-- The instance for all characters would otherwise go through every character there is.
instance (text : List Char) : Decidable (IsAsciiLine text) := List.decidableBAll _ text

section Codes

variable {code high low : Nat} {codes : List Nat}

theorem isHighSurrogate_iff : isHighSurrogate code = true ↔ 0xD800 ≤ code ∧ code < 0xDC00 := by
  simp [isHighSurrogate]

theorem isLowSurrogate_iff : isLowSurrogate code = true ↔ 0xDC00 ≤ code ∧ code < 0xE000 := by
  simp [isLowSurrogate]

theorem isSurrogate_iff : isSurrogate code = true ↔ 0xD800 ≤ code ∧ code < 0xE000 := by
  simp [isSurrogate]

theorem isPrintableAscii_iff {character : Char} :
    IsPrintableAscii character ↔ 0x20 ≤ character.toNat ∧ character.toNat ≤ 0x7E := Iff.rfl

theorem isAsciiLine_cons {character : Char} {text : List Char} :
    IsAsciiLine (character :: text) ↔ IsPrintableAscii character ∧ IsAsciiLine text :=
  List.forall_mem_cons

theorem isAsciiLine_append {first second : List Char} :
    IsAsciiLine (first ++ second) ↔ IsAsciiLine first ∧ IsAsciiLine second :=
  List.forall_mem_append

theorem toNat_valid (character : Char) :
    character.toNat < 0x110000 ∧ isSurrogate character.toNat = false := by
  rw [Bool.eq_false_iff, ne_eq, isSurrogate_iff]
  rcases character.valid with below | ⟨above, bounded⟩
  · have : character.toNat < 0xD800 := below
    omega
  · have : 0xDFFF < character.toNat := above
    have : character.toNat < 0x110000 := bounded
    omega

theorem toNat_ofNat (isCode : code < 0x110000) (noSurrogate : isSurrogate code = false) :
    (Char.ofNat code).toNat = code := by
  have outside : ¬(0xD800 ≤ code ∧ code < 0xE000) := by
    rw [← isSurrogate_iff, noSurrogate]
    exact Bool.false_ne_true
  have valid : code.isValidChar := by
    by_cases below : code < 0xD800
    · exact .inl below
    · exact .inr ⟨by omega, isCode⟩
  rw [Char.toNat_ofNat, if_pos valid]

theorem charOfCode_toNat (character : Char) : charOfCode character.toNat = character := by
  rw [charOfCode, (toNat_valid character).2, if_neg Bool.false_ne_true, Char.ofNat_toNat]

theorem ofCodes_toNat (text : String) : ofCodes (text.toList.map Char.toNat) = text := by
  simp [ofCodes, Function.comp_def, charOfCode_toNat]

theorem joinSurrogates_bounds (isHigh : isHighSurrogate high = true)
    (isLow : isLowSurrogate low = true) :
    0x10000 ≤ joinSurrogates high low ∧ joinSurrogates high low < 0x110000 := by
  rw [isHighSurrogate_iff] at isHigh
  rw [isLowSurrogate_iff] at isLow
  unfold joinSurrogates
  omega

theorem areCodes_joined (areCodes : AreCodes codes) : AreCodes (joined codes) := by
  fun_induction joined codes with
  | case1 high low rest pair ih =>
      rw [Bool.and_eq_true] at pair
      intro code mem
      rcases List.mem_cons.mp mem with first | later
      · rw [first]
        exact (joinSurrogates_bounds pair.1 pair.2).2
      · exact ih (fun code mem => areCodes code (by simp [mem])) code later
  | case2 high low rest _ ih =>
      intro code mem
      rcases List.mem_cons.mp mem with rfl | later
      · exact areCodes code List.mem_cons_self
      · exact ih (fun code mem => areCodes code (List.mem_cons_of_mem _ mem)) code later
  | case3 codes => exact areCodes

theorem head?_joined {second : Nat} (head : (joined (low :: codes)).head? = some second) :
    second = low ∨ 0x10000 ≤ second := by
  cases codes with
  | nil =>
      simp only [joined, List.head?_cons, Option.some.injEq] at head
      exact .inl head.symm
  | cons next rest =>
      simp only [joined] at head
      split at head
      · rename_i pair
        rw [Bool.and_eq_true] at pair
        rcases Option.some.inj head with rfl
        exact .inr (joinSurrogates_bounds pair.1 pair.2).1
      · exact .inl (Option.some.inj head).symm

theorem hasNoPair_joined (codes : List Nat) : HasNoPair (joined codes) := by
  unfold HasNoPair
  fun_induction joined codes with
  | case1 high low rest pair ih =>
      rw [Bool.and_eq_true] at pair
      have beyond := (joinSurrogates_bounds pair.1 pair.2).1
      apply List.isChain_cons.mpr
      refine ⟨fun second _ => ?_, ih⟩
      rw [isHighSurrogate_iff]
      omega
  | case2 high low rest noPair ih =>
      apply List.isChain_cons.mpr
      refine ⟨fun second head => ?_, ih⟩
      rcases head?_joined head with rfl | beyond
      · rwa [Bool.and_eq_true] at noPair
      · rw [isLowSurrogate_iff]
        omega
  | case3 codes few =>
      rcases codes with _ | ⟨first, _ | ⟨second, rest⟩⟩
      · exact .nil
      · exact .singleton first
      · exact absurd rfl (few first second rest)

theorem joined_of_hasNoPair (noPair : HasNoPair codes) : joined codes = codes := by
  fun_induction joined codes with
  | case1 high low rest pair _ =>
      rw [Bool.and_eq_true] at pair
      exact absurd pair (List.isChain_cons_cons.mp noPair).1
  | case2 high low rest _ ih => rw [ih (List.isChain_cons_cons.mp noPair).2]
  | case3 codes => rfl

theorem any_isSurrogate_toNat (text : List Char) :
    (text.map Char.toNat).any isSurrogate = false := by
  rw [List.any_map, List.any_eq_false]
  intro character _
  exact Bool.eq_false_iff.mp (toNat_valid character).2

theorem areCodes_toNat (text : List Char) : AreCodes (text.map Char.toNat) := by
  intro code mem
  rcases List.mem_map.mp mem with ⟨character, _, rfl⟩
  exact (toNat_valid character).1

theorem hasNoPair_of_noSurrogate (none : codes.any isSurrogate = false) :
    HasNoPair codes := by
  rw [List.any_eq_false] at none
  apply List.Pairwise.isChain
  apply List.pairwise_of_forall_mem_list
  rintro first firstMem second _ ⟨isHigh, _⟩
  rw [isHighSurrogate_iff] at isHigh
  apply none first firstMem
  rw [isSurrogate_iff]
  omega

end Codes

end Text

end DeliveryCycle
