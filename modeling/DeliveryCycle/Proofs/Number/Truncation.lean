import DeliveryCycle.Number.Binary64

/-!
# Integer parts of rounded ratios

A ratio that is rounded to double precision and then cut off stays close to its numerator as long as
it is below `2 ^ 53`: rounding moves it by at most one step of a grid of ones or of fractions.
-/

namespace DeliveryCycle

namespace Number

theorem roundHalfEven_le (numerator denominator : Nat) :
    roundHalfEven numerator denominator ≤ numerator / denominator + 1 := by
  unfold roundHalfEven
  dsimp only
  split
  · omega
  · split <;> omega

/-- The grid of a ratio below `2 ^ 52` is one of ones or of fractions. -/
theorem gridExponent_nonpos {numerator denominator : Nat}
    (small : numerator.log2 ≤ denominator.log2 + 52) : gridExponent numerator denominator ≤ 0 := by
  unfold gridExponent leastExponent
  dsimp only
  split <;> omega

end Number

namespace Binary64

open Number

theorem natAbs_truncate_finite (negative : Bool) (mantissa : Nat) (exponent : Int) :
    (truncate (.finite negative mantissa exponent)).natAbs =
      mantissa * twoPow exponent.toNat / twoPow (-exponent).toNat := by
  cases negative with
  | false => exact Int.natAbs_natCast _
  | true => exact (Int.natAbs_neg _).trans (Int.natAbs_natCast _)

/-- A carry does not change the magnitude that is cut off. -/
theorem magnitude_carry (exponent : Int) :
    twoPow 52 * twoPow (exponent + 1).toNat / twoPow (-(exponent + 1)).toNat =
      twoPow 53 * twoPow exponent.toNat / twoPow (-exponent).toNat := by
  have twice : twoPow 53 = twoPow 52 * 2 := twoPow_succ 52
  by_cases fraction : exponent < 0
  · obtain ⟨places, rfl⟩ : ∃ places : Nat, exponent = -(places + 1 : Nat) :=
      ⟨(-exponent).toNat - 1, by omega⟩
    have next : (-(-((places + 1 : Nat) : Int) + 1)).toNat = places := by omega
    have here : (-(-((places + 1 : Nat) : Int))).toNat = places + 1 := by omega
    have above : (-((places + 1 : Nat) : Int) + 1).toNat = 0 := by omega
    have none : (-((places + 1 : Nat) : Int)).toNat = 0 := by omega
    rw [next, here, above, none, twoPow_succ places, twoPow_zero, twice, Nat.mul_one, Nat.mul_one]
    exact (Nat.mul_div_mul_right _ _ Nat.zero_lt_two).symm
  · have above : (exponent + 1).toNat = exponent.toNat + 1 := by omega
    have none : (-exponent).toNat = 0 := by omega
    have noneNext : (-(exponent + 1)).toNat = 0 := by omega
    rw [above, none, noneNext, twoPow_succ exponent.toNat, twice, Nat.mul_assoc, Nat.mul_comm 2]

theorem natAbs_truncate_ofMagnitude_le (negative : Bool) (mantissa : Nat) (exponent : Int) :
    (truncate (ofMagnitude negative mantissa exponent)).natAbs ≤
      mantissa * twoPow exponent.toNat / twoPow (-exponent).toNat := by
  unfold ofMagnitude
  by_cases zero : mantissa = 0
  · simp [zero, natAbs_truncate_finite]
  · by_cases carries : mantissa = twoPow 53
    · simp only [carries, if_true]
      split
      · simp [truncate]
      · split
        · exact Nat.zero_le _
        · apply Nat.le_of_eq
          rw [natAbs_truncate_finite, magnitude_carry]
    · simp only [zero, carries, if_false]
      split
      · exact Nat.zero_le _
      · exact Nat.le_of_eq (natAbs_truncate_finite _ _ _)

/-- A ratio below `2 ^ 52` is rounded and cut off to at most one more than its numerator. -/
theorem natAbs_truncate_ofRatio_le {numerator : Int} {denominator : Nat}
    (small : numerator.natAbs.log2 ≤ denominator.log2 + 52) :
    (truncate (ofRatio numerator denominator)).natAbs ≤ numerator.natAbs + 1 := by
  have coarse := gridExponent_nonpos small
  unfold ofRatio roundRatio
  dsimp only
  generalize gridExponent numerator.natAbs denominator = exponent at coarse
  have none : exponent.toNat = 0 := by omega
  refine Nat.le_trans (natAbs_truncate_ofMagnitude_le _ _ _) ?_
  simp only [scaledNumerator, scaledDenominator, none, twoPow_zero, Nat.mul_one]
  -- What is cut off is a multiple of `1 / scale`, so one step of the grid adds at most one.
  generalize twoPow (-exponent).toNat = scale
  calc roundHalfEven (numerator.natAbs * scale) denominator / scale
      ≤ (numerator.natAbs * scale + 1) / scale := by
        apply Nat.div_le_div_right
        exact Nat.le_trans (roundHalfEven_le _ _) (Nat.succ_le_succ (Nat.div_le_self _ _))
    _ ≤ numerator.natAbs + 1 := by
        rcases Nat.eq_zero_or_pos scale with rfl | positive
        · simp
        · rw [Nat.mul_comm, Nat.mul_add_div positive]
          exact Nat.add_le_add_left (Nat.div_le_self 1 scale) _

end Binary64

end DeliveryCycle
