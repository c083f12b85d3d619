import DeliveryCycle.Json.Reader
import DeliveryCycle.Json.Writer
import DeliveryCycle.Proofs.Text.Codes
import Mathlib

/-!
# Integers, written and read

An integer is written as its digits, behind a minus if it is negative, and the digits do not start
with a zero unless it is zero. So the reader takes all of them, provided that what follows ends them
and that it sets no limit to their number: `readScalar_writeInt`.
-/

namespace DeliveryCycle

namespace Json

open Text

/-- No number has too many digits, and nothing lies too deep. -/
structure Dialect.IsUnlimited (dialect : Dialect) : Prop where
  digits : dialect.greatestDigits = none
  depth : dialect.greatestDepth = none

/-- What follows a value inside a line: a comma, a closing bracket or the end. -/
def EndsValue (rest : List Nat) : Prop :=
  ∀ code ∈ rest.head?, code = Sign.comma ∨ code = Sign.closeList ∨ code = Sign.closeObject

section Numbers

variable {dialect : Dialect} {rest : List Nat} {value : Nat}

theorem isDigitCode_of_mem_decimalDigits {code : Nat}
    (mem : code ∈ (Number.decimalDigits value).map Char.toNat) : isDigitCode code = true := by
  rcases List.mem_map.mp mem with ⟨digit, digitMem, rfl⟩
  have isDigit := Nat.isDigit_of_mem_toDigits (by decide) (by decide) digitMem
  simpa [isDigitCode, Char.isDigit, UInt32.le_iff_toNat_le] using isDigit

theorem isGap_of_isDigitCode {digit : Nat} (isDigit : isDigitCode digit = true) :
    isGap digit = false := by
  rw [Bool.eq_false_iff]
  intro gap
  simp only [isGap, Bool.or_eq_true, decide_eq_true_eq] at gap
  rcases gap with ((rfl | rfl) | rfl) | rfl
  all_goals exact absurd isDigit (by decide)

theorem decimalDigits_start (value : Nat) :
    ∃ digit behind, (Number.decimalDigits value).map Char.toNat = digit :: behind ∧
      isDigitCode digit = true := by
  cases digits : (Number.decimalDigits value).map Char.toNat with
  | nil => exact absurd (List.map_eq_nil_iff.mp digits) Nat.toDigits_ne_nil
  | cons digit behind =>
      have mem : digit ∈ (Number.decimalDigits value).map Char.toNat := by
        rw [digits]
        exact List.mem_cons_self
      exact ⟨digit, behind, rfl, isDigitCode_of_mem_decimalDigits mem⟩

theorem writeInt_start (value : Int) :
    ∃ first behind, (writeInt value).map Char.toNat = first :: behind ∧
      (first = Sign.minus ∨ isDigitCode first = true) := by
  rcases decimalDigits_start value.natAbs with ⟨digit, behind, digits, isDigit⟩
  unfold writeInt
  split
  · exact ⟨_, _, rfl, .inl rfl⟩
  · exact ⟨digit, behind, digits, .inr isDigit⟩

theorem head?_decimalDigits (positive : 0 < value) :
    (Number.decimalDigits value).head? ≠ some '0' := by
  have noZero : ∀ digit < 10, 0 < digit → [Nat.digitChar digit].head? ≠ some '0' := by decide
  induction value using Nat.strong_induction_on with
  | _ value ih =>
      rw [Number.decimalDigits, Nat.toDigits_eq_if (by decide)]
      split
      · rename_i single
        exact noZero value single positive
      · rename_i several
        rw [List.head?_append_of_ne_nil _ Nat.toDigits_ne_nil]
        exact ih (value / 10) (by omega) (by omega)

theorem digitsValue_decimalDigits (value : Nat) :
    digitsValue ((Number.decimalDigits value).map Char.toNat) = value := by
  have foldl := @Nat.ofDigitChars_toDigits 10 value (by decide) (by decide)
  rw [Nat.ofDigitChars_eq_foldl] at foldl
  rw [digitsValue, Number.ofDigits, List.map_map, List.foldl_map]
  exact foldl

theorem splitDigits_append {digits : List Nat}
    (areDigits : ∀ code ∈ digits, isDigitCode code = true) (ends : EndsValue rest) :
    splitDigits (digits ++ rest) = (digits, rest) := by
  have noDigit : rest.takeWhile isDigitCode = [] ∧ rest.dropWhile isDigitCode = rest := by
    cases rest with
    | nil => exact ⟨rfl, rfl⟩
    | cons code behind =>
        have other : isDigitCode code = false := by
          rcases ends code rfl with rfl | rfl | rfl <;> rfl
        rw [List.takeWhile_cons, List.dropWhile_cons, other]
        exact ⟨rfl, rfl⟩
  rw [splitDigits, List.takeWhile_append_of_pos areDigits, List.dropWhile_append_of_pos areDigits,
    noDigit.1, noDigit.2, List.append_nil]

theorem readWhole_decimalDigits (value : Nat) (ends : EndsValue rest) :
    readWhole ((Number.decimalDigits value).map Char.toNat ++ rest) =
      .ok ((Number.decimalDigits value).map Char.toNat, rest) := by
  have areDigits : ∀ code ∈ (Number.decimalDigits value).map Char.toNat, isDigitCode code = true :=
    fun code => isDigitCode_of_mem_decimalDigits
  have written : (Number.decimalDigits value).map Char.toNat ≠ [] := by
    rw [ne_eq, List.map_eq_nil_iff]
    exact Nat.toDigits_ne_nil
  rcases Nat.eq_zero_or_pos value with rfl | positive
  · rfl
  · have noZero : ∀ behind,
        (Number.decimalDigits value).map Char.toNat ++ rest ≠ Sign.zero :: behind := by
      intro behind same
      have head := congrArg List.head? same
      rw [List.head?_append_of_ne_nil _ written, List.head?_map, List.head?_cons,
        Option.map_eq_some_iff] at head
      rcases head with ⟨digit, head, same⟩
      have isZero : digit = '0' := Char.toNat_inj.mp (same.trans (rfl : Sign.zero = '0'.toNat))
      rw [isZero] at head
      exact head?_decimalDigits positive head
    rw [readWhole, splitDigits_append areDigits ends]
    · dsimp only
      rw [if_neg]
      rwa [List.isEmpty_iff]
    · exact noZero

theorem readMagnitude_decimalDigits (unlimited : dialect.IsUnlimited) (negative : Bool)
    (value : Nat) (ends : EndsValue rest) :
    readMagnitude dialect negative ((Number.decimalDigits value).map Char.toNat ++ rest) =
      .ok (.int (Number.signedInteger negative value), rest) := by
  have noFraction : readFractionDigits rest = ([], rest) := by
    cases rest with
    | nil => rfl
    | cons code behind => rcases ends code rfl with rfl | rfl | rfl <;> rfl
  have noExponent : readExponent? rest = none := by
    cases rest with
    | nil => rfl
    | cons code behind => rcases ends code rfl with rfl | rfl | rfl <;> rfl
  have integer : readInteger dialect negative ((Number.decimalDigits value).map Char.toNat) =
      .ok (.int (Number.signedInteger negative value)) := by
    rw [readInteger, unlimited.digits, digitsValue_decimalDigits]
    rfl
  simp only [readMagnitude, readWhole_decimalDigits value ends, noFraction, noExponent, integer,
    bind, Except.bind, pure, Except.pure]
  rfl

theorem signedInteger_natAbs (value : Int) :
    Number.signedInteger (value < 0) value.natAbs = value := by
  unfold Number.signedInteger
  split
  · rename_i negative
    rw [decide_eq_true_eq] at negative
    omega
  · rename_i positive
    rw [decide_eq_true_eq] at positive
    omega

theorem dropWord?_append (word : List Char) (rest : List Nat) :
    dropWord? word (word.map Char.toNat ++ rest) = some rest := by
  induction word with
  | nil => rfl
  | cons expected word ih =>
      rw [List.map_cons, List.cons_append, dropWord?, if_pos rfl, ih]

theorem dropWord?_of_ne {word : List Char} {expected : Char} {code : Nat}
    (start : word.head? = some expected) (differs : code ≠ expected.toNat) (text : List Nat) :
    dropWord? word (code :: text) = none := by
  cases word with
  | nil => cases start
  | cons first word =>
      cases start
      exact if_neg differs

/-- No word stands at the start of a number. -/
theorem readScalar_of_lt {first : Nat} {text : List Nat} (below : first < 0x40)
    (noInfinity : dropWord? "-Infinity".toList (first :: text) = none) :
    readScalar dialect (first :: text) = readNumber dialect (first :: text) := by
  have noWord {word : List Char} (letter : Char) (start : word.head? = some letter)
      (above : 0x40 ≤ letter.toNat) : dropWord? word (first :: text) = none :=
    dropWord?_of_ne start (by omega) text
  have noSpecial : readSpecial? (first :: text) = none := by
    rw [readSpecial?, noWord 'N' rfl (by decide), noWord 'I' rfl (by decide), noInfinity]
  rw [readScalar, noWord 'n' rfl (by decide), noWord 't' rfl (by decide),
    noWord 'f' rfl (by decide), noSpecial, ite_self]

theorem readScalar_of_digit {digit : Nat} (isDigit : isDigitCode digit = true) (text : List Nat) :
    readScalar dialect (digit :: text) = readNumber dialect (digit :: text) := by
  apply readScalar_of_lt
  · simp only [isDigitCode, Bool.and_eq_true, decide_eq_true_eq] at isDigit
    omega
  · apply dropWord?_of_ne rfl
    rintro rfl
    exact absurd isDigit (by decide)

theorem readScalar_of_minus {digit : Nat} (isDigit : isDigitCode digit = true) (text : List Nat) :
    readScalar dialect (Sign.minus :: digit :: text) =
      readNumber dialect (Sign.minus :: digit :: text) := by
  apply readScalar_of_lt (by decide)
  have noInfinity : dropWord? "Infinity".toList (digit :: text) = none := by
    apply dropWord?_of_ne rfl
    rintro rfl
    exact absurd isDigit (by decide)
  exact noInfinity

theorem readScalar_writeInt (unlimited : dialect.IsUnlimited) (value : Int)
    (ends : EndsValue rest) :
    readScalar dialect ((writeInt value).map Char.toNat ++ rest) = .ok (.int value, rest) := by
  have read (negative : Bool) := readMagnitude_decimalDigits unlimited negative value.natAbs ends
  have signed := signedInteger_natAbs value
  rcases decimalDigits_start value.natAbs with ⟨digit, behind, digits, isDigit⟩
  rw [digits, List.cons_append] at read
  unfold writeInt
  split
  · rename_i negative
    rw [decide_eq_true negative] at signed
    rw [List.map_cons, List.cons_append, digits, List.cons_append]
    change readScalar dialect (Sign.minus :: digit :: (behind ++ rest)) = _
    rw [readScalar_of_minus isDigit, readNumber, read true, signed]
  · rename_i positive
    rw [decide_eq_false positive] at signed
    rw [digits, List.cons_append, readScalar_of_digit isDigit, readNumber, read false, signed]
    intro text same
    rw [(List.cons.inj same).1] at isDigit
    exact absurd isDigit (by decide)

theorem isAsciiLine_writeInt (value : Int) : IsAsciiLine (writeInt value) := by
  have digits : IsAsciiLine (Number.decimalDigits value.natAbs) := by
    intro digit mem
    have isDigit := isDigitCode_of_mem_decimalDigits (List.mem_map_of_mem mem)
    simp only [isDigitCode, Bool.and_eq_true, decide_eq_true_eq] at isDigit
    rw [isPrintableAscii_iff]
    omega
  unfold writeInt
  split
  · exact isAsciiLine_cons.mpr ⟨by decide, digits⟩
  · exact digits

end Numbers

end Json

end DeliveryCycle
