import DeliveryCycle.Proofs.Number.Grid
import Mathlib.Data.Rat.Floor
import Mathlib.Tactic.Linarith

/-!
# Rounding keeps order

Of two ratios the one that is not less is not rounded to less, which `roundedValue_mono` says of
magnitudes and `value_ofRatio_mono` of numbers with a sign. If both are rounded on one grid, the
nearest points are in order. If not, the finer grid ends where the mantissas of the coarser one
begin.

A number stands for a rational number, its `value`. Its integer part is read off the value, so that
it keeps order too, and an opposite value has the opposite integer part.
-/

namespace DeliveryCycle

namespace Number

variable {numerator denominator otherNumerator otherDenominator : Nat} {exponent : Int}

section Mantissa

/-- On one grid a ratio that is not less is not rounded to a lower point. -/
theorem roundHalfEven_mono (denominatorPos : 0 < denominator)
    (otherPositive : 0 < otherDenominator)
    (le : numerator * otherDenominator ≤ otherNumerator * denominator) :
    roundHalfEven numerator denominator ≤ roundHalfEven otherNumerator otherDenominator := by
  have reached := (le_roundHalfEven_iff denominatorPos).mp
    (Nat.le_refl (roundHalfEven numerator denominator))
  rw [le_roundHalfEven_iff otherPositive]
  generalize roundHalfEven numerator denominator = point at *
  have scaled : (2 * numerator + denominator) * otherDenominator ≤
      (2 * otherNumerator + otherDenominator) * denominator := by
    linarith
  have crossed : 2 * (point * denominator) * otherDenominator =
      2 * (point * otherDenominator) * denominator := by
    ring
  rcases reached with before | ⟨middle, even⟩
  · left
    apply Nat.lt_of_mul_lt_mul_right (a := denominator)
    calc
      2 * (point * otherDenominator) * denominator
        = 2 * (point * denominator) * otherDenominator := crossed.symm
      _ < (2 * numerator + denominator) * otherDenominator :=
          Nat.mul_lt_mul_of_pos_right before otherPositive
      _ ≤ (2 * otherNumerator + otherDenominator) * denominator := scaled
  · have atMost : 2 * (point * otherDenominator) ≤ 2 * otherNumerator + otherDenominator := by
      apply Nat.le_of_mul_le_mul_right _ denominatorPos
      rw [← crossed, middle]
      exact scaled
    rcases Nat.lt_or_eq_of_le atMost with before | middle
    · exact .inl before
    · exact .inr ⟨middle, even⟩

@[simp] theorem roundHalfEven_one (numerator : Nat) : roundHalfEven numerator 1 = numerator := by
  rw [roundHalfEven_of_near] <;> simp [Nat.mod_one]

theorem roundHalfEven_le_of_fitsGrid (fits : fitsGrid numerator denominator exponent = true) :
    roundHalfEven (scaledNumerator numerator exponent) (scaledDenominator denominator exponent) ≤
      twoPow 53 := by
  have below : scaledNumerator numerator exponent / scaledDenominator denominator exponent <
      twoPow 53 := by
    apply Nat.div_lt_of_lt_mul
    rw [Nat.mul_comm]
    exact of_decide_eq_true fits
  exact Nat.le_trans (roundHalfEven_le _ _) below

/-- A ratio that does not fit the grid with half the step uses all bits of a mantissa. -/
theorem le_roundHalfEven_of_not_fitsGrid (denominatorPos : 0 < denominator)
    (unfit : ¬fitsGrid numerator denominator (exponent - 1) = true) :
    twoPow 52 ≤ roundHalfEven (scaledNumerator numerator exponent)
      (scaledDenominator denominator exponent) := by
  have positive : 0 < scaledDenominator denominator exponent :=
    Nat.mul_pos denominatorPos (twoPow_pos _)
  have atLeast : twoPow 52 * scaledDenominator denominator exponent ≤
      scaledNumerator numerator exponent := by
    have bits : (53 : Int) + (exponent - 1) = (52 : Nat) + exponent := by
      push_cast
      omega
    rwa [fitsGrid_iff, bits, ← scaledNumerator_lt_iff, Nat.not_lt] at unfit
  exact Nat.le_trans ((Nat.le_div_iff_mul_le positive).mpr atLeast) (le_roundHalfEven _ _)

end Mantissa

section Grid

theorem leastExponent_le_gridExponent (numerator denominator : Nat) :
    leastExponent ≤ gridExponent numerator denominator :=
  le_max_left _ _

theorem fitsGrid_gridExponent (numeratorPos : 0 < numerator) (denominatorPos : 0 < denominator) :
    fitsGrid numerator denominator (gridExponent numerator denominator) = true :=
  (gridExponent_le_iff numeratorPos denominatorPos (leastExponent_le_gridExponent _ _)).mp
    (Int.le_refl _)

/-- A ratio that is not less does not have a finer grid. -/
theorem gridExponent_mono (numeratorPos : 0 < numerator) (denominatorPos : 0 < denominator)
    (otherNumeratorPos : 0 < otherNumerator) (otherPositive : 0 < otherDenominator)
    (le : numerator * otherDenominator ≤ otherNumerator * denominator) :
    gridExponent numerator denominator ≤ gridExponent otherNumerator otherDenominator := by
  have fits := fitsGrid_gridExponent otherNumeratorPos otherPositive
  rw [gridExponent_le_iff numeratorPos denominatorPos (leastExponent_le_gridExponent _ _)]
  rw [fitsGrid_iff] at *
  generalize (2 : ℚ) ^ (53 + gridExponent otherNumerator otherDenominator) = limit at *
  have crossed : (numerator : ℚ) * otherDenominator ≤ otherNumerator * denominator := by
    exact_mod_cast le
  have denominatorCast : (0 : ℚ) < denominator := by exact_mod_cast denominatorPos
  have otherCast : (0 : ℚ) < otherDenominator := by exact_mod_cast otherPositive
  apply lt_of_mul_lt_mul_right _ otherCast.le
  calc
    (numerator : ℚ) * otherDenominator ≤ otherNumerator * denominator := crossed
    _ < limit * otherDenominator * denominator := by gcongr
    _ = limit * denominator * otherDenominator := mul_right_comm _ _ _

end Grid

/-- The number that a ratio is rounded to. -/
def roundedValue (numerator denominator : Nat) : ℚ :=
  (roundRatio numerator denominator).1 * 2 ^ (roundRatio numerator denominator).2

@[simp] theorem roundedValue_zero (denominator : Nat) : roundedValue 0 denominator = 0 := by
  simp [roundedValue, roundRatio, scaledNumerator, roundHalfEven]

theorem roundedValue_nonneg (numerator denominator : Nat) :
    0 ≤ roundedValue numerator denominator := by
  unfold roundedValue
  positivity

/-- The points of a grid end at the power of two that has one bit more than a mantissa. -/
theorem roundedValue_le (numeratorPos : 0 < numerator) (denominatorPos : 0 < denominator) :
    roundedValue numerator denominator ≤ 2 ^ (53 + gridExponent numerator denominator) := by
  have atMost : (_ : ℚ) ≤ twoPow 53 := Nat.cast_le.mpr
    (roundHalfEven_le_of_fitsGrid (fitsGrid_gridExponent numeratorPos denominatorPos))
  rw [zpow_add₀ two_ne_zero]
  unfold roundedValue roundRatio
  dsimp only
  rw [cast_twoPow] at atMost
  exact mul_le_mul_of_nonneg_right atMost (by positivity)

/-- A ratio that is rounded on a coarser grid is not rounded to less than where the grid ends. -/
theorem le_roundedValue (numeratorPos : 0 < numerator) (denominatorPos : 0 < denominator)
    (least : leastExponent ≤ exponent) (coarser : exponent < gridExponent numerator denominator) :
    2 ^ (53 + exponent) ≤ roundedValue numerator denominator := by
  have unfit : ¬fitsGrid numerator denominator (gridExponent numerator denominator - 1) = true := by
    rw [← gridExponent_le_iff numeratorPos denominatorPos (by omega)]
    omega
  have atLeast : (twoPow 52 : ℚ) ≤ _ :=
    Nat.cast_le.mpr (le_roundHalfEven_of_not_fitsGrid denominatorPos unfit)
  unfold roundedValue roundRatio
  dsimp only
  generalize gridExponent numerator denominator = grid at *
  calc
    (2 : ℚ) ^ (53 + exponent) ≤ 2 ^ (52 + grid) := zpow_le_zpow_right₀ one_le_two (by omega)
    _ = (twoPow 52 : ℚ) * 2 ^ grid := by
        rw [cast_twoPow, zpow_add₀ two_ne_zero]
        rfl
    _ ≤ _ := by gcongr

/-- Of two magnitudes the one that is not less is not rounded to less. -/
theorem roundedValue_mono (denominatorPos : 0 < denominator)
    (otherPositive : 0 < otherDenominator)
    (le : numerator * otherDenominator ≤ otherNumerator * denominator) :
    roundedValue numerator denominator ≤ roundedValue otherNumerator otherDenominator := by
  rcases Nat.eq_zero_or_pos numerator with rfl | numeratorPos
  · rw [roundedValue_zero]
    exact roundedValue_nonneg _ _
  · have otherNumeratorPos : 0 < otherNumerator :=
      Nat.pos_of_mul_pos_right (Nat.lt_of_lt_of_le (Nat.mul_pos numeratorPos otherPositive) le)
    have grids :=
      gridExponent_mono numeratorPos denominatorPos otherNumeratorPos otherPositive le
    rcases Int.lt_or_eq_of_le grids with coarser | same
    · calc
        roundedValue numerator denominator
          ≤ 2 ^ (53 + gridExponent numerator denominator) :=
            roundedValue_le numeratorPos denominatorPos
        _ ≤ roundedValue otherNumerator otherDenominator :=
            le_roundedValue otherNumeratorPos otherPositive
              (leastExponent_le_gridExponent _ _) coarser
    · unfold roundedValue roundRatio
      dsimp only
      rw [same]
      generalize gridExponent otherNumerator otherDenominator = grid
      gcongr
      apply roundHalfEven_mono (Nat.mul_pos denominatorPos (twoPow_pos _))
        (Nat.mul_pos otherPositive (twoPow_pos _))
      unfold scaledNumerator
      calc
        _ = numerator * otherDenominator * (twoPow (-grid).toNat * twoPow grid.toNat) := by ring
        _ ≤ otherNumerator * denominator * (twoPow (-grid).toNat * twoPow grid.toNat) := by
            gcongr
        _ = _ := by ring

/-- A whole number that needs no coarser grid is kept. -/
theorem roundedValue_one (fractions : gridExponent numerator 1 ≤ 0) :
    roundedValue numerator 1 = numerator := by
  have ones : (gridExponent numerator 1).toNat = 0 := by omega
  have positive : (twoPow (-gridExponent numerator 1).toNat : ℚ) ≠ 0 := by
    exact_mod_cast (twoPow_pos _).ne'
  unfold roundedValue roundRatio
  dsimp only
  rw [scaledDenominator, ones, twoPow_zero, roundHalfEven_one, scaledNumerator,
    zpow_eq_twoPow_div, ones, twoPow_zero]
  push_cast
  field_simp

/-- The product of two numbers as the ratio that is rounded. -/
theorem scaled_product (leftMantissa rightMantissa : Nat) (leftExponent rightExponent : Int) :
    ((leftMantissa * rightMantissa * twoPow (leftExponent + rightExponent).toNat : Nat) : ℚ) /
        (twoPow (-(leftExponent + rightExponent)).toNat : Nat) =
      (leftMantissa * 2 ^ leftExponent) * (rightMantissa * 2 ^ rightExponent) := by
  push_cast
  rw [mul_div_assoc, ← zpow_eq_twoPow_div, zpow_add₀ two_ne_zero]
  ring

end Number

namespace Binary64

open Number

variable {numerator otherNumerator : Int} {denominator otherDenominator : Nat}

/-- The rational number that a finite number stands for. -/
def value : Binary64 → ℚ
  | .finite negative mantissa exponent =>
      (if negative then -1 else 1) * (mantissa * 2 ^ exponent)
  | .infinite _ | .notANumber => 0

@[simp] theorem value_finite (negative : Bool) (mantissa : Nat) (exponent : Int) :
    value (.finite negative mantissa exponent) =
      (if negative then -1 else 1) * (mantissa * 2 ^ exponent) := rfl

section Rounded

/-- A magnitude is kept unless it is too large, and its sign decides nothing else. -/
theorem ofMagnitude_cases (mantissa : Nat) (exponent : Int) :
    (∃ (kept : Nat) (grid : Int), (kept : ℚ) * 2 ^ grid = mantissa * 2 ^ exponent ∧
      ∀ negative, ofMagnitude negative mantissa exponent = .finite negative kept grid) ∨
    (971 ≤ exponent ∧
      ∀ negative, ofMagnitude negative mantissa exponent = .infinite negative) := by
  unfold ofMagnitude
  by_cases zero : mantissa = 0
  · refine .inl ⟨0, leastExponent, ?_, ?_⟩ <;> simp [zero]
  · by_cases carries : mantissa = twoPow 53
    · have nonzero : twoPow 53 ≠ 0 := (twoPow_pos 53).ne'
      by_cases large : 971 < exponent + 1
      · refine .inr ⟨by omega, fun negative => ?_⟩
        simp [carries, large, nonzero]
      · refine .inl ⟨twoPow 52, exponent + 1, ?_, fun negative => ?_⟩
        · rw [carries, cast_twoPow, cast_twoPow, zpow_add_one₀ two_ne_zero]
          ring
        · simp [carries, large, nonzero]
    · by_cases large : 971 < exponent
      · refine .inr ⟨by omega, fun negative => ?_⟩
        simp [zero, carries, large]
      · refine .inl ⟨mantissa, exponent, rfl, fun negative => ?_⟩
        simp [zero, carries, large]

theorem value_ofMagnitude_not (negative : Bool) (mantissa : Nat) (exponent : Int) :
    (ofMagnitude (!negative) mantissa exponent).value =
      -(ofMagnitude negative mantissa exponent).value := by
  rcases ofMagnitude_cases mantissa exponent with ⟨kept, grid, _, shape⟩ | ⟨_, shape⟩
  · rw [shape, shape]
    cases negative <;> simp
  · simp [shape, value]

theorem isFinite_ofRatio (moderate : gridExponent numerator.natAbs denominator < 971) :
    (ofRatio numerator denominator).isFinite = true := by
  unfold ofRatio roundRatio
  rcases ofMagnitude_cases _ (gridExponent numerator.natAbs denominator) with
    ⟨kept, grid, _, shape⟩ | ⟨large, _⟩
  · rw [shape]
    rfl
  · omega

theorem exists_ofRatio_natCast {magnitude : Nat}
    (moderate : gridExponent magnitude denominator < 971) :
    ∃ (kept : Nat) (grid : Int), ofRatio magnitude denominator = .finite false kept grid ∧
      (kept : ℚ) * 2 ^ grid = roundedValue magnitude denominator := by
  have nonneg : ¬(magnitude : Int) < 0 := by omega
  unfold ofRatio roundedValue
  rw [Int.natAbs_natCast]
  rcases ofMagnitude_cases (roundRatio magnitude denominator).1
    (roundRatio magnitude denominator).2 with ⟨kept, grid, same, shape⟩ | ⟨large, _⟩
  · refine ⟨kept, grid, ?_, same⟩
    rw [shape, decide_eq_false nonneg]
  · have exponent : (roundRatio magnitude denominator).2 = gridExponent magnitude denominator := rfl
    omega

theorem value_ofRatio_natCast {magnitude : Nat}
    (moderate : gridExponent magnitude denominator < 971) :
    (ofRatio magnitude denominator).value = roundedValue magnitude denominator := by
  rcases exists_ofRatio_natCast moderate with ⟨kept, grid, shape, same⟩
  rw [shape, ← same]
  simp

/-- The opposite of a ratio is rounded to the opposite number. -/
theorem value_ofRatio_neg (numerator : Int) (denominator : Nat) :
    (ofRatio (-numerator) denominator).value = -(ofRatio numerator denominator).value := by
  by_cases zero : numerator = 0
  · subst zero
    simp [ofRatio, roundRatio, scaledNumerator, roundHalfEven, ofMagnitude]
  · have opposite : decide (-numerator < 0) = !decide (numerator < 0) := by
      rw [← decide_not, decide_eq_decide]
      omega
    unfold ofRatio
    rw [Int.natAbs_neg, opposite]
    exact value_ofMagnitude_not _ _ _

/-- Rounding keeps order: of two ratios in the range of finite numbers, the one that is not less is
not rounded to less. -/
theorem value_ofRatio_mono (denominatorPos : 0 < denominator)
    (otherPositive : 0 < otherDenominator)
    (moderate : gridExponent numerator.natAbs denominator < 971)
    (otherModerate : gridExponent otherNumerator.natAbs otherDenominator < 971)
    (le : numerator * otherDenominator ≤ otherNumerator * denominator) :
    (ofRatio numerator denominator).value ≤ (ofRatio otherNumerator otherDenominator).value := by
  have denominatorCast : (0 : Int) < denominator := by omega
  have otherCast : (0 : Int) < otherDenominator := by omega
  rcases Int.le_total 0 numerator with nonneg | nonpos
  · have otherNonneg : 0 ≤ otherNumerator := by
      apply Int.nonneg_of_mul_nonneg_left _ denominatorCast
      exact Int.le_trans (Int.mul_nonneg nonneg otherCast.le) le
    obtain ⟨lower, rfl⟩ := Int.eq_ofNat_of_zero_le nonneg
    obtain ⟨upper, rfl⟩ := Int.eq_ofNat_of_zero_le otherNonneg
    rw [Int.natAbs_natCast] at moderate otherModerate
    rw [value_ofRatio_natCast moderate, value_ofRatio_natCast otherModerate]
    exact roundedValue_mono denominatorPos otherPositive (by exact_mod_cast le)
  · obtain ⟨lower, rfl⟩ := Int.exists_eq_neg_ofNat nonpos
    rw [Int.natAbs_neg, Int.natAbs_natCast] at moderate
    rw [value_ofRatio_neg, value_ofRatio_natCast moderate]
    rcases Int.le_total 0 otherNumerator with nonneg | nonpos
    · obtain ⟨upper, rfl⟩ := Int.eq_ofNat_of_zero_le nonneg
      rw [Int.natAbs_natCast] at otherModerate
      rw [value_ofRatio_natCast otherModerate]
      calc
        -roundedValue lower denominator ≤ 0 := neg_nonpos.mpr (roundedValue_nonneg _ _)
        _ ≤ roundedValue upper otherDenominator := roundedValue_nonneg _ _
    · obtain ⟨upper, rfl⟩ := Int.exists_eq_neg_ofNat nonpos
      rw [Int.natAbs_neg, Int.natAbs_natCast] at otherModerate
      rw [value_ofRatio_neg, value_ofRatio_natCast otherModerate, neg_le_neg_iff]
      rw [Int.neg_mul, Int.neg_mul, Int.neg_le_neg_iff] at le
      exact roundedValue_mono otherPositive denominatorPos (by exact_mod_cast le)

/-- An integer that needs no coarser grid is kept. -/
theorem value_ofInt {number : Int} (fractions : gridExponent number.natAbs 1 ≤ 0) :
    (ofInt number).value = number := by
  unfold ofInt
  rcases Int.le_total 0 number with nonneg | nonpos
  · obtain ⟨magnitude, rfl⟩ := Int.eq_ofNat_of_zero_le nonneg
    rw [Int.natAbs_natCast] at fractions
    rw [value_ofRatio_natCast (by omega), roundedValue_one fractions, Int.cast_natCast]
  · obtain ⟨magnitude, rfl⟩ := Int.exists_eq_neg_ofNat nonpos
    rw [Int.natAbs_neg, Int.natAbs_natCast] at fractions
    rw [value_ofRatio_neg, value_ofRatio_natCast (by omega), roundedValue_one fractions,
      Int.cast_neg, Int.cast_natCast]

/-- A finite number between two integers. -/
structure IsBetween (number : Binary64) (lower upper : Int) : Prop where
  finite : number.isFinite = true
  lower_le : (lower : ℚ) ≤ number.value
  le_upper : number.value ≤ upper

/-- A ratio between two integers of at most 53 bits is rounded to a number between them. -/
theorem isBetween_ofRatio {lower upper : Int} (denominatorPos : 0 < denominator)
    (lowerShort : lower.natAbs < twoPow 53) (upperShort : upper.natAbs < twoPow 53)
    (lower_le : lower * denominator ≤ numerator) (le_upper : numerator ≤ upper * denominator) :
    (ofRatio numerator denominator).IsBetween lower upper := by
  have denominatorCast : (0 : Int) < denominator := by omega
  have lowest : -(twoPow 53 : Int) * denominator < lower * denominator :=
    Int.mul_lt_mul_of_pos_right (by omega) denominatorCast
  have highest : upper * denominator < twoPow 53 * denominator :=
    Int.mul_lt_mul_of_pos_right (by omega) denominatorCast
  have short : numerator.natAbs < twoPow 53 * denominator := by
    rw [Int.neg_mul] at lowest
    omega
  have fractions := gridExponent_le_zero denominatorPos short
  have lowerFractions : gridExponent lower.natAbs 1 ≤ 0 :=
    gridExponent_le_zero Nat.one_pos (by omega)
  have upperFractions : gridExponent upper.natAbs 1 ≤ 0 :=
    gridExponent_le_zero Nat.one_pos (by omega)
  refine ⟨isFinite_ofRatio (by omega), ?_, ?_⟩
  · rw [← value_ofInt lowerFractions]
    apply value_ofRatio_mono Nat.one_pos denominatorPos (by omega) (by omega)
    omega
  · rw [← value_ofInt upperFractions]
    apply value_ofRatio_mono denominatorPos Nat.one_pos (by omega) (by omega)
    omega

theorem isBetween_ofInt {number : Int} (short : number.natAbs < twoPow 53) :
    (ofInt number).IsBetween number number :=
  isBetween_ofRatio Nat.one_pos short short (by omega) (by omega)

end Rounded

section Product

/-- A product of numbers that are not negative is the rounded product of their values. -/
theorem mul_finite (leftMantissa rightMantissa : Nat) (leftExponent rightExponent : Int) :
    mul (.finite false leftMantissa leftExponent) (.finite false rightMantissa rightExponent) =
      ofRatio (leftMantissa * rightMantissa * twoPow (leftExponent + rightExponent).toNat : Nat)
        (twoPow (-(leftExponent + rightExponent)).toNat) := by
  unfold mul ofRatio
  dsimp only
  rw [Int.natAbs_natCast, decide_eq_false (by omega)]
  rfl

end Product

section IntegerPart

theorem truncate_finite (negative : Bool) (mantissa : Nat) (exponent : Int) :
    truncate (.finite negative mantissa exponent) =
      (if negative then -1 else 1) * ⌊(mantissa : ℚ) * 2 ^ exponent⌋ := by
  have size : (mantissa : ℚ) * 2 ^ exponent =
      (mantissa * twoPow exponent.toNat : Nat) / (twoPow (-exponent).toNat : Nat) := by
    rw [zpow_eq_twoPow_div]
    push_cast
    ring
  rw [size, Rat.floor_natCast_div_natCast]
  cases negative <;> simp [truncate]

theorem truncate_eq (number : Binary64) :
    number.truncate = if number.value < 0 then ⌈number.value⌉ else ⌊number.value⌋ := by
  cases number with
  | finite negative mantissa exponent =>
      have nonneg : 0 ≤ (mantissa : ℚ) * 2 ^ exponent := by positivity
      rw [truncate_finite, value_finite]
      generalize (mantissa : ℚ) * 2 ^ exponent = magnitude at *
      cases negative with
      | false => simp [nonneg.not_gt]
      | true =>
          rcases nonneg.lt_or_eq with positive | zero
          · simp [positive, Int.ceil_neg]
          · simp [← zero]
  | infinite negative => simp [truncate, value]
  | notANumber => simp [truncate, value]

variable {number opposite lower upper : Binary64}

theorem truncate_mono (le : lower.value ≤ upper.value) : lower.truncate ≤ upper.truncate := by
  rw [truncate_eq, truncate_eq]
  split
  · split
    · exact Int.ceil_mono le
    · rename_i negative nonneg
      calc
        ⌈lower.value⌉ ≤ 0 := Int.ceil_le.mpr (by exact_mod_cast negative.le)
        _ ≤ ⌊upper.value⌋ := Int.floor_nonneg.mpr (not_lt.mp nonneg)
  · rename_i nonneg
    rw [if_neg (by linarith)]
    exact Int.floor_mono le

theorem truncate_of_value_neg (negated : opposite.value = -number.value) :
    opposite.truncate = -number.truncate := by
  rw [truncate_eq, truncate_eq, negated]
  rcases lt_trichotomy number.value 0 with negative | zero | positive
  · have positive : ¬-number.value < 0 := by linarith
    rw [if_pos negative, if_neg positive, Int.floor_neg]
  · simp [zero]
  · have negative : -number.value < 0 := by linarith
    rw [if_neg positive.le.not_gt, if_pos negative, Int.ceil_neg]

/-- A ratio that stays more than half a step of some grid below the next integer keeps its integer
part, as its own grid is not coarser. -/
theorem truncate_ofRatio_of_gap {magnitude denominator whole places : Nat}
    (denominatorPos : 0 < denominator) (atMost : places ≤ 53)
    (short : magnitude < twoPow (53 - places) * denominator)
    (least : whole * denominator ≤ magnitude)
    (gap : 2 * (magnitude * twoPow places) + denominator <
      2 * ((whole + 1) * twoPow places * denominator)) :
    truncate (ofRatio magnitude denominator) = whole := by
  have grid := gridExponent_le_of_lt denominatorPos atMost short
  rw [truncate_ofRatio (by rw [Int.natAbs_natCast]; omega), Int.natAbs_natCast]
  dsimp only
  obtain ⟨finer, deeper⟩ : ∃ finer, (-gridExponent magnitude denominator).toNat = places + finer :=
    ⟨(-gridExponent magnitude denominator).toNat - places, by omega⟩
  have scale : twoPow (places + finer) = twoPow places * twoPow finer := Nat.pow_add 2 places finer
  have positive := twoPow_pos finer
  rw [deeper, scale, roundHalfEven_div_of_gap denominatorPos least]
  · rcases Nat.eq_zero_or_pos magnitude with rfl | magnitudePos
    · have zero : whole = 0 := by
        by_contra nonzero
        have := Nat.mul_pos (Nat.pos_of_ne_zero nonzero) denominatorPos
        omega
      simp [zero]
    · rw [Int.sign_eq_one_of_pos (by omega), Int.one_mul]
  · calc
      2 * (magnitude * (twoPow places * twoPow finer)) + denominator
        ≤ (2 * (magnitude * twoPow places) + denominator) * twoPow finer := by
          have := Nat.le_mul_of_pos_right denominator positive
          linarith
      _ < 2 * ((whole + 1) * twoPow places * denominator) * twoPow finer :=
          Nat.mul_lt_mul_of_pos_right gap positive
      _ = 2 * ((whole + 1) * (twoPow places * twoPow finer) * denominator) := by ring

end IntegerPart

end Binary64

end DeliveryCycle
