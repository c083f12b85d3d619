import DeliveryCycle.Proofs.Number.Truncation
import Mathlib.Algebra.Order.Field.Power
import Mathlib.Data.Rat.Cast.Order
import Mathlib.Tactic.Positivity
import Mathlib.Tactic.Ring

/-!
# The grid of a ratio

A ratio is rounded on the finest grid on which it has at most 53 bits; `gridExponent_le_iff` says
that this is what `gridExponent` gives. On a grid of fractions of one, a rounded ratio that is cut
off is the integer part of the ratio or one more, by `div_le_roundHalfEven_div` and
`roundHalfEven_div_le`, and it is one more only if the grid is too coarse to tell the ratio from the
next integer: `roundHalfEven_div_eq`.
-/

namespace DeliveryCycle

namespace Number

section Grid

variable {numerator denominator : Nat} {exponent coarser : Int}

theorem cast_twoPow (exponent : Nat) : (twoPow exponent : ℚ) = 2 ^ exponent :=
  Nat.cast_pow 2 exponent

theorem zpow_eq_twoPow_div (exponent : Int) :
    (2 : ℚ) ^ exponent = twoPow exponent.toNat / twoPow (-exponent).toNat := by
  rw [cast_twoPow, cast_twoPow]
  rcases Int.le_total 0 exponent with ones | fractions
  · obtain ⟨places, rfl⟩ := Int.eq_ofNat_of_zero_le ones
    simp
  · obtain ⟨places, rfl⟩ := Int.exists_eq_neg_ofNat fractions
    simp

/-- A ratio is below a power of two if it is below as many steps of a grid as the power has. -/
theorem scaledNumerator_lt_iff {bits : Nat} :
    scaledNumerator numerator exponent < twoPow bits * scaledDenominator denominator exponent ↔
      (numerator : ℚ) < 2 ^ (bits + exponent) * denominator := by
  have positive : (0 : ℚ) < twoPow (-exponent).toNat := by exact_mod_cast twoPow_pos _
  have size : (2 : ℚ) ^ (bits + exponent) =
      twoPow bits * twoPow exponent.toNat / twoPow (-exponent).toNat := by
    rw [zpow_add₀ two_ne_zero, zpow_eq_twoPow_div exponent, mul_div_assoc, zpow_natCast,
      cast_twoPow bits]
  rw [size, div_mul_eq_mul_div, lt_div_iff₀ positive, mul_assoc,
    mul_comm (twoPow exponent.toNat : ℚ)]
  exact_mod_cast Iff.rfl

theorem fitsGrid_iff : fitsGrid numerator denominator exponent = true ↔
    (numerator : ℚ) < 2 ^ (53 + exponent) * denominator := by
  unfold fitsGrid
  rw [decide_eq_true_iff, scaledNumerator_lt_iff]
  rfl

theorem fitsGrid_of_le (fits : fitsGrid numerator denominator exponent = true)
    (le : exponent ≤ coarser) : fitsGrid numerator denominator coarser = true := by
  rw [fitsGrid_iff] at *
  have longer : (2 : ℚ) ^ (53 + exponent) ≤ 2 ^ (53 + coarser) :=
    zpow_le_zpow_right₀ one_le_two (by omega)
  calc
    (numerator : ℚ) < 2 ^ (53 + exponent) * denominator := fits
    _ ≤ 2 ^ (53 + coarser) * denominator := by gcongr

theorem not_fitsGrid_guess (positive : 0 < numerator) :
    fitsGrid numerator denominator
      ((numerator.log2 : Int) - denominator.log2 - 53 - 1) = false := by
  rw [← Bool.not_eq_true, fitsGrid_iff, not_lt]
  have least : (2 : ℚ) ^ numerator.log2 ≤ numerator := by
    exact_mod_cast Nat.log2_self_le positive.ne'
  have greatest : (denominator : ℚ) ≤ 2 ^ (denominator.log2 + 1) := by
    exact_mod_cast Nat.lt_log2_self.le
  calc
    (2 : ℚ) ^ (53 + ((numerator.log2 : Int) - denominator.log2 - 53 - 1)) * denominator
      ≤ 2 ^ (53 + ((numerator.log2 : Int) - denominator.log2 - 53 - 1)) *
          2 ^ (denominator.log2 + 1) := by gcongr
    _ = 2 ^ numerator.log2 := by
        rw [← zpow_natCast, ← zpow_natCast, ← zpow_add₀ two_ne_zero]
        congr 1
        push_cast
        ring
    _ ≤ numerator := least

theorem fitsGrid_guess (positive : 0 < denominator) :
    fitsGrid numerator denominator
      ((numerator.log2 : Int) - denominator.log2 - 53 + 1) = true := by
  rw [fitsGrid_iff]
  have greatest : (numerator : ℚ) < 2 ^ (numerator.log2 + 1) := by
    exact_mod_cast Nat.lt_log2_self
  have least : (2 : ℚ) ^ denominator.log2 ≤ denominator := by
    exact_mod_cast Nat.log2_self_le positive.ne'
  calc
    (numerator : ℚ) < 2 ^ (numerator.log2 + 1) := greatest
    _ = 2 ^ (53 + ((numerator.log2 : Int) - denominator.log2 - 53 + 1)) *
          2 ^ denominator.log2 := by
        rw [← zpow_natCast, ← zpow_natCast, ← zpow_add₀ two_ne_zero]
        congr 1
        push_cast
        ring
    _ ≤ 2 ^ (53 + ((numerator.log2 : Int) - denominator.log2 - 53 + 1)) * denominator := by
        gcongr

/-- The grid of a ratio is the finest one that it fits. -/
theorem gridExponent_le_iff (numeratorPos : 0 < numerator) (denominatorPos : 0 < denominator)
    (least : leastExponent ≤ exponent) :
    gridExponent numerator denominator ≤ exponent ↔
      fitsGrid numerator denominator exponent = true := by
  have tooFine : fitsGrid numerator denominator _ = false := not_fitsGrid_guess numeratorPos
  have coarse : fitsGrid numerator denominator _ = true := fitsGrid_guess denominatorPos
  unfold gridExponent
  -- The guess may be one too fine, but neither finer than that nor too coarse.
  generalize (numerator.log2 : Int) - denominator.log2 - 53 = guess at *
  have above {finer : Int} (unfit : fitsGrid numerator denominator finer = false)
      (fits : fitsGrid numerator denominator exponent = true) : finer < exponent := by
    by_contra le
    simp [fitsGrid_of_le fits (Int.not_lt.mp le)] at unfit
  dsimp only
  rw [max_le_iff]
  constructor
  · rintro ⟨_, le⟩
    split at le
    · rename_i fits
      exact fitsGrid_of_le fits le
    · exact fitsGrid_of_le coarse le
  · intro fits
    refine ⟨least, ?_⟩
    split
    · have := above tooFine fits
      omega
    · rename_i unfit
      exact above (Bool.eq_false_of_not_eq_true unfit) fits

theorem fitsGrid_of_lt {places : Nat} (atMost : places ≤ 53)
    (short : numerator < twoPow (53 - places) * denominator) :
    fitsGrid numerator denominator (-places) = true := by
  rw [fitsGrid_iff]
  have size : (53 : Int) + -places = ((53 - places : Nat) : Int) := by omega
  rw [size, zpow_natCast, ← cast_twoPow]
  exact_mod_cast short

/-- A ratio with few bits before its point is rounded on a grid with the others behind it. -/
theorem gridExponent_le_of_lt {places : Nat} (denominatorPos : 0 < denominator)
    (atMost : places ≤ 53) (short : numerator < twoPow (53 - places) * denominator) :
    gridExponent numerator denominator ≤ -places := by
  rcases Nat.eq_zero_or_pos numerator with rfl | numeratorPos
  · have fits (exponent : Int) : fitsGrid 0 denominator exponent = true := by
      rw [fitsGrid_iff]
      positivity
    simp only [gridExponent, fits, leastExponent, if_true, Nat.log2_zero]
    omega
  · rw [gridExponent_le_iff numeratorPos denominatorPos (by unfold leastExponent; omega)]
    exact fitsGrid_of_lt atMost short

theorem gridExponent_le_zero (denominatorPos : 0 < denominator)
    (short : numerator < twoPow 53 * denominator) : gridExponent numerator denominator ≤ 0 :=
  gridExponent_le_of_lt denominatorPos (Nat.zero_le 53) short

end Grid

section Rounding

variable {numerator denominator scale : Nat}

/-- A point is not above the nearest one if it is less than half a step above the ratio, or half a
step and even. -/
theorem le_roundHalfEven_iff {point : Nat} (denominatorPos : 0 < denominator) :
    point ≤ roundHalfEven numerator denominator ↔
      2 * (point * denominator) < 2 * numerator + denominator ∨
        2 * (point * denominator) = 2 * numerator + denominator ∧ point % 2 = 0 := by
  have parts := Nat.div_add_mod numerator denominator
  have rest := Nat.mod_lt numerator denominatorPos
  unfold roundHalfEven
  dsimp only
  rw [Nat.mul_comm denominator] at parts
  generalize numerator % denominator = remainder at *
  generalize numerator / denominator = whole at *
  rcases Nat.lt_trichotomy point (whole + 1) with below | rfl | above
  · have atMost : point * denominator ≤ whole * denominator :=
      Nat.mul_le_mul_right _ (Nat.le_of_lt_succ below)
    split
    · omega
    · split <;> omega
  · have next : (whole + 1) * denominator = whole * denominator + denominator :=
      Nat.succ_mul _ _
    split
    · omega
    · split <;> omega
  · have atLeast : (whole + 2) * denominator ≤ point * denominator :=
      Nat.mul_le_mul_right _ above
    rw [Nat.add_mul] at atLeast
    split
    · omega
    · split <;> omega

theorem le_roundHalfEven (numerator denominator : Nat) :
    numerator / denominator ≤ roundHalfEven numerator denominator := by
  unfold roundHalfEven
  dsimp only
  split
  · exact Nat.le_refl _
  · split <;> omega

theorem roundHalfEven_of_near (near : 2 * (numerator % denominator) < denominator) :
    roundHalfEven numerator denominator = numerator / denominator := by
  simp [roundHalfEven, near]

theorem div_le_roundHalfEven_div (denominatorPos : 0 < denominator) (scalePos : 0 < scale) :
    numerator / denominator ≤ roundHalfEven (numerator * scale) denominator / scale := by
  rw [Nat.le_div_iff_mul_le scalePos]
  calc
    numerator / denominator * scale ≤ numerator * scale / denominator := by
      rw [Nat.le_div_iff_mul_le denominatorPos, Nat.mul_right_comm]
      exact Nat.mul_le_mul_right _ (Nat.div_mul_le_self _ _)
    _ ≤ roundHalfEven (numerator * scale) denominator := le_roundHalfEven _ _

/-- The ratio stays below the next integer by at least one part of the denominator. -/
theorem mul_scale_add_le (denominatorPos : 0 < denominator) :
    numerator * scale + scale ≤ (numerator / denominator + 1) * scale * denominator := by
  have below : numerator + 1 ≤ (numerator / denominator + 1) * denominator :=
    Nat.lt_mul_of_div_lt (Nat.lt_succ_self _) denominatorPos
  calc
    numerator * scale + scale = (numerator + 1) * scale := (Nat.succ_mul _ _).symm
    _ ≤ (numerator / denominator + 1) * denominator * scale := Nat.mul_le_mul_right _ below
    _ = (numerator / denominator + 1) * scale * denominator := Nat.mul_right_comm _ _ _

theorem div_lt_next (denominatorPos : 0 < denominator) (scalePos : 0 < scale) :
    numerator * scale / denominator < (numerator / denominator + 1) * scale := by
  rw [Nat.div_lt_iff_lt_mul denominatorPos]
  have gap : numerator * scale + scale ≤ _ := mul_scale_add_le denominatorPos
  omega

theorem roundHalfEven_div_le (denominatorPos : 0 < denominator) (scalePos : 0 < scale) :
    roundHalfEven (numerator * scale) denominator / scale ≤ numerator / denominator + 1 := by
  have below : numerator * scale / denominator < _ := div_lt_next denominatorPos scalePos
  have rounded := roundHalfEven_le (numerator * scale) denominator
  apply Nat.div_le_of_le_mul
  rw [Nat.mul_comm scale]
  omega

/-- A ratio that stays more than half a step below the next integer is not rounded up to it. -/
theorem roundHalfEven_div_of_gap {whole : Nat} (denominatorPos : 0 < denominator)
    (least : whole * denominator ≤ numerator)
    (gap : 2 * (numerator * scale) + denominator < 2 * ((whole + 1) * scale * denominator)) :
    roundHalfEven (numerator * scale) denominator / scale = whole := by
  have scalePos : 0 < scale := by
    by_contra none
    have zero : scale = 0 := by omega
    simp [zero] at gap
  apply Nat.le_antisymm
  · apply Nat.le_of_lt_add_one
    rw [Nat.div_lt_iff_lt_mul scalePos, ← Nat.not_le, le_roundHalfEven_iff denominatorPos]
    omega
  · calc
      whole ≤ numerator / denominator := (Nat.le_div_iff_mul_le denominatorPos).mpr least
      _ ≤ roundHalfEven (numerator * scale) denominator / scale :=
          div_le_roundHalfEven_div denominatorPos scalePos

/-- On a grid of more than half as many points as the denominator has parts, a ratio is not rounded
up to the next integer. -/
theorem roundHalfEven_div_eq (denominatorPos : 0 < denominator) (fine : denominator < 2 * scale) :
    roundHalfEven (numerator * scale) denominator / scale = numerator / denominator := by
  apply roundHalfEven_div_of_gap denominatorPos (Nat.div_mul_le_self _ _)
  have gap : numerator * scale + scale ≤ _ := mul_scale_add_le denominatorPos
  omega

theorem roundHalfEven_div_of_dvd (denominatorPos : 0 < denominator) (scalePos : 0 < scale)
    (whole : denominator ∣ numerator) :
    roundHalfEven (numerator * scale) denominator / scale = numerator / denominator := by
  obtain ⟨value, rfl⟩ := whole
  have product : denominator * value * scale = denominator * (value * scale) := Nat.mul_assoc _ _ _
  rw [roundHalfEven_of_near, product, Nat.mul_div_right _ denominatorPos,
    Nat.mul_div_right _ denominatorPos, Nat.mul_div_left _ scalePos]
  rw [product, Nat.mul_mod_right]
  exact denominatorPos

end Rounding

end Number

namespace Binary64

open Number

variable {numerator : Int} {denominator : Nat}

theorem truncate_ofMagnitude (negative : Bool) (mantissa : Nat) {exponent : Int}
    (fractions : exponent ≤ 0) :
    truncate (ofMagnitude negative mantissa exponent) =
      let magnitude : Nat := mantissa / twoPow (-exponent).toNat
      if negative then -(magnitude : Int) else magnitude := by
  have ones : exponent.toNat = 0 := by omega
  unfold ofMagnitude
  by_cases zero : mantissa = 0
  · simp [zero, truncate]
  · have finite : ¬971 < exponent := by omega
    have finiteNext : ¬971 < exponent + 1 := by omega
    by_cases carries : mantissa = twoPow 53
    · have same := magnitude_carry exponent
      rw [ones, twoPow_zero, Nat.mul_one] at same
      have positive : twoPow 53 ≠ 0 := (twoPow_pos 53).ne'
      simp only [carries, positive, if_true, if_false, finiteNext, truncate, same]
    · simp [zero, carries, finite, truncate, ones]

/-- The integer part of a rounded ratio, whose grid is one of fractions. -/
theorem truncate_ofRatio (fractions : gridExponent numerator.natAbs denominator ≤ 0) :
    truncate (ofRatio numerator denominator) =
      let scale := twoPow (-gridExponent numerator.natAbs denominator).toNat
      numerator.sign * (roundHalfEven (numerator.natAbs * scale) denominator / scale : Nat) := by
  have ones : (gridExponent numerator.natAbs denominator).toNat = 0 := by omega
  unfold ofRatio roundRatio
  dsimp only
  rw [truncate_ofMagnitude _ _ fractions, scaledNumerator, scaledDenominator, ones, twoPow_zero,
    Nat.mul_one]
  rcases Int.lt_trichotomy numerator 0 with negative | rfl | positive
  · simp [negative, Int.sign_eq_neg_one_of_neg negative]
  · simp [roundHalfEven]
  · simp [Int.not_lt.mpr positive.le, Int.sign_eq_one_of_pos positive]

theorem tdiv_eq_sign_mul (numerator : Int) (denominator : Nat) :
    numerator.tdiv denominator = numerator.sign * (numerator.natAbs / denominator : Nat) := by
  rcases Int.lt_trichotomy numerator 0 with negative | rfl | positive
  · obtain ⟨magnitude, rfl⟩ := Int.exists_eq_neg_ofNat negative.le
    simp [Int.sign_eq_neg_one_of_neg negative, Int.neg_tdiv]
  · simp
  · obtain ⟨magnitude, rfl⟩ := Int.eq_ofNat_of_zero_le positive.le
    simp [Int.sign_eq_one_of_pos positive]

/-- A ratio that fits a grid fine enough to tell its parts apart keeps its integer part. -/
theorem truncate_ofRatio_eq_tdiv {places : Nat} (denominatorPos : 0 < denominator)
    (offered : places ≤ 1074) (fits : fitsGrid numerator.natAbs denominator (-places) = true)
    (fine : denominator < 2 * twoPow places) :
    truncate (ofRatio numerator denominator) = numerator.tdiv denominator := by
  by_cases zero : numerator = 0
  · subst zero
    rw [truncate_ofRatio (gridExponent_nonpos (by simp))]
    simp
  · have finer : gridExponent numerator.natAbs denominator ≤ -places := by
      apply (gridExponent_le_iff (Int.natAbs_pos.mpr zero) denominatorPos _).mpr fits
      unfold leastExponent
      omega
    have scaled : twoPow places ≤ twoPow (-gridExponent numerator.natAbs denominator).toNat :=
      Nat.pow_le_pow_right Nat.zero_lt_two (by omega)
    rw [truncate_ofRatio (by omega), tdiv_eq_sign_mul]
    dsimp only
    rw [roundHalfEven_div_eq denominatorPos (by omega)]

theorem truncate_ofRatio_of_dvd (denominatorPos : 0 < denominator)
    (fractions : gridExponent numerator.natAbs denominator ≤ 0)
    (whole : denominator ∣ numerator.natAbs) :
    truncate (ofRatio numerator denominator) = numerator.tdiv denominator := by
  rw [truncate_ofRatio fractions, tdiv_eq_sign_mul]
  dsimp only
  rw [roundHalfEven_div_of_dvd denominatorPos (twoPow_pos _) whole]

/-- Below `2 ^ 53` a rounded ratio has its integer part or the next integer away from zero. -/
theorem truncate_ofRatio_near (denominatorPos : 0 < denominator)
    (fractions : gridExponent numerator.natAbs denominator ≤ 0) :
    truncate (ofRatio numerator denominator) = numerator.tdiv denominator ∨
      truncate (ofRatio numerator denominator) =
        numerator.tdiv denominator + numerator.sign := by
  rw [truncate_ofRatio fractions, tdiv_eq_sign_mul]
  dsimp only
  generalize (-gridExponent numerator.natAbs denominator).toNat = places
  have least : numerator.natAbs / denominator ≤ _ :=
    div_le_roundHalfEven_div denominatorPos (twoPow_pos places)
  have greatest : _ ≤ numerator.natAbs / denominator + 1 :=
    roundHalfEven_div_le denominatorPos (twoPow_pos places)
  rcases Nat.lt_or_eq_of_le greatest with below | next
  · left
    rw [Nat.le_antisymm (Nat.le_of_lt_succ below) least]
  · right
    rw [next]
    push_cast
    ring

end Binary64

end DeliveryCycle
