import DeliveryCycle.Proofs.Number.Order
import DeliveryCycle.Record.Statistics
import Mathlib.Algebra.Order.BigOperators.Group.List
import Mathlib.Algebra.Order.Group.Int
import Mathlib.Data.List.Sort

/-!
# The order of statistics

The position `count * 0.9` is the integer part of nine tenths of the count, although nine tenths
are not a number of double precision. The number in its place is a little greater, and below
`2 ^ 50` values this and the rounding of the product add up to less than one tenth
(`ninetiethRank_eq`). The position is one of the ascending order, so that its value is there.

Average and median are ratios between two of the values. Rounding keeps them there, because the
values are numbers of double precision themselves.
-/

namespace DeliveryCycle

open Number

namespace Statistics

section Rank

variable {count : Nat}

theorem nineTenths_eq : nineTenths = .finite false 8106479329266893 (-53) := by decide

/-- The position is the integer part of a rounded ratio, which is nine tenths of the count and a
little more: nine tenths are not a number of double precision, but rounded up to one. -/
theorem exists_ninetiethRank_eq (few : count < 2 ^ 50) :
    ∃ numerator denominator : Nat, 0 < denominator ∧
      numerator * 2 ^ 53 = count * 8106479329266893 * denominator ∧
      ninetiethRank count = (Binary64.ofRatio numerator denominator).truncate.toNat := by
  have fractions : gridExponent count 1 ≤ 0 := by
    apply gridExponent_le_zero Nat.one_pos
    have size : twoPow 53 = 2 ^ 53 := rfl
    omega
  have moderate : gridExponent count 1 < 971 := by omega
  rcases Binary64.exists_ofRatio_natCast moderate with ⟨kept, grid, counted, same⟩
  rw [roundedValue_one fractions] at same
  refine ⟨kept * 8106479329266893 * twoPow (grid + -53).toNat, twoPow (-(grid + -53)).toNat,
    twoPow_pos _, ?_, ?_⟩
  · have positive : ((twoPow (-(grid + -53)).toNat : Nat) : ℚ) ≠ 0 := by
      exact_mod_cast (twoPow_pos _).ne'
    have product := scaled_product kept 8106479329266893 grid (-53)
    rw [same, div_eq_iff positive] at product
    have scaled : ((kept * 8106479329266893 * twoPow (grid + -53).toNat : Nat) : ℚ) * 2 ^ 53 =
        count * 8106479329266893 * (twoPow (-(grid + -53)).toNat : Nat) := by
      rw [product]
      norm_num
      ring
    exact_mod_cast scaled
  · have exact : Binary64.ofInt count = .finite false kept grid := counted
    unfold ninetiethRank
    rw [exact, nineTenths_eq, Binary64.mul_finite]

/-- What is added to nine tenths of the count and what is rounded stay together below one tenth, so
that the integer part is exact. -/
theorem ninetiethRank_eq (few : count < 2 ^ 50) : ninetiethRank count = 9 * count / 10 := by
  rcases exists_ninetiethRank_eq few with ⟨numerator, denominator, positive, ratio, rank⟩
  obtain ⟨position, positionEq⟩ : ∃ position, position = 9 * count / 10 := ⟨_, rfl⟩
  obtain ⟨product, productEq⟩ : ∃ product, product = count * 8106479329266893 := ⟨_, rfl⟩
  rw [← productEq] at ratio
  have short : product < 2 ^ 50 * 2 ^ 53 := by omega
  have least : position * 2 ^ 53 ≤ product := by omega
  have gap : 16 * product + 2 ^ 53 < 16 * (position + 1) * 2 ^ 53 := by omega
  have atMost : 3 ≤ 53 := by decide
  have truncated : (Binary64.ofRatio numerator denominator).truncate = position := by
    apply Binary64.truncate_ofRatio_of_gap positive atMost
    · show numerator < 2 ^ 50 * denominator
      apply Nat.lt_of_mul_lt_mul_right (a := 2 ^ 53)
      calc
        numerator * 2 ^ 53 = product * denominator := ratio
        _ < 2 ^ 50 * 2 ^ 53 * denominator := Nat.mul_lt_mul_of_pos_right short positive
        _ = 2 ^ 50 * denominator * 2 ^ 53 := Nat.mul_right_comm _ _ _
    · refine Nat.le_of_mul_le_mul_right ?_ (Nat.two_pow_pos 53)
      calc
        position * denominator * 2 ^ 53 = position * 2 ^ 53 * denominator :=
          Nat.mul_right_comm _ _ _
        _ ≤ product * denominator := Nat.mul_le_mul_right _ least
        _ = numerator * 2 ^ 53 := ratio.symm
    · show 2 * (numerator * 8) + denominator < 2 * ((position + 1) * 8 * denominator)
      apply Nat.lt_of_mul_lt_mul_right (a := 2 ^ 53)
      calc
        (2 * (numerator * 8) + denominator) * 2 ^ 53
          = 16 * (numerator * 2 ^ 53) + 2 ^ 53 * denominator := by ring
        _ = (16 * product + 2 ^ 53) * denominator := by
            rw [ratio]
            ring
        _ < 16 * (position + 1) * 2 ^ 53 * denominator :=
            Nat.mul_lt_mul_of_pos_right gap positive
        _ = 2 * ((position + 1) * 8 * denominator) * 2 ^ 53 := by ring
  rw [rank, truncated, Int.toNat_natCast, positionEq]

end Rank

section Ascending

variable {values : List Int}

theorem ascending_perm (values : List Int) : (ascending values).Perm values :=
  List.mergeSort_perm _ _

theorem pairwise_ascending (values : List Int) : (ascending values).Pairwise (· ≤ ·) :=
  List.sortedLE_mergeSort.pairwise

theorem getElem_ascending_mem {position : Nat} (bound : position < (ascending values).length) :
    (ascending values)[position] ∈ values :=
  (ascending_perm values).mem_iff.mp (List.getElem_mem bound)

@[simp] theorem length_ascending (values : List Int) :
    (ascending values).length = values.length :=
  (ascending_perm values).length_eq

/-- Integers have one ascending order only. -/
theorem ascending_eq_of_perm {reordered : List Int} (perm : values.Perm reordered) :
    ascending values = ascending reordered := by
  apply List.Perm.eq_of_sortedLE (pairwise_ascending values).sortedLE
    (pairwise_ascending reordered).sortedLE
  calc
    (ascending values).Perm values := ascending_perm values
    _ |>.Perm reordered := perm
    _ |>.Perm (ascending reordered) := (ascending_perm reordered).symm

variable {sorted : List Int} {position : Nat}

theorem length_le_countP {part whole : List Int} {holds : Int → Bool}
    (sublist : part.Sublist whole) (all : ∀ value ∈ part, holds value = true) :
    part.length ≤ whole.countP holds := by
  rw [← List.countP_eq_length.mpr all]
  exact sublist.countP_le

/-- The values up to a position are at most the value there. -/
theorem lt_countP_le (ordered : sorted.Pairwise (· ≤ ·)) (bound : position < sorted.length) :
    position < sorted.countP (· ≤ sorted[position]) := by
  have counted : (sorted.take (position + 1)).length ≤ sorted.countP (· ≤ sorted[position]) := by
    apply length_le_countP (List.take_sublist _ _)
    intro value mem
    rcases List.mem_take_iff_getElem.mp mem with ⟨index, before, rfl⟩
    simpa using ordered.sortedLE.getElem_le_getElem_of_le (by omega)
  rw [List.length_take] at counted
  omega

/-- The values from a position on are at least the value there. -/
theorem length_sub_le_countP (ordered : sorted.Pairwise (· ≤ ·))
    (bound : position < sorted.length) :
    sorted.length - position ≤ sorted.countP (sorted[position] ≤ ·) := by
  rw [← List.length_drop]
  apply length_le_countP (List.drop_sublist _ _)
  intro value mem
  rcases List.mem_drop_iff_getElem.mp mem with ⟨index, before, rfl⟩
  simpa using ordered.sortedLE.getElem_le_getElem_of_le (by omega)

end Ascending

section Between

variable {values sorted : List Int} {lower upper : Int}

/-- Half the sum of two values is between the bounds of both. -/
theorem isBetween_median (lowerShort : lower.natAbs < twoPow 53)
    (upperShort : upper.natAbs < twoPow 53)
    (between : ∀ position ≤ sorted.length / 2,
      lower ≤ sorted.getD position 0 ∧ sorted.getD position 0 ≤ upper) :
    (median sorted).IsBetween lower upper := by
  have half := between (sorted.length / 2) (Nat.le_refl _)
  have before := between (sorted.length / 2 - 1) (Nat.sub_le _ _)
  unfold median
  dsimp only
  split
  · apply Binary64.isBetween_ofRatio Nat.one_pos lowerShort upperShort <;> omega
  · apply Binary64.isBetween_ofRatio Nat.two_pos lowerShort upperShort <;> omega

/-- The middle values are not after the position of nine tenths. -/
theorem isBetween_median_ascending
    (bound : 9 * values.length / 10 < (ascending values).length)
    (lowerShort : lower.natAbs < twoPow 53)
    (short : (ascending values)[9 * values.length / 10].natAbs < twoPow 53)
    (atLeast : ∀ value ∈ values, lower ≤ value) :
    (median (ascending values)).IsBetween lower (ascending values)[9 * values.length / 10] := by
  apply isBetween_median lowerShort short
  intro position order
  rw [length_ascending] at order
  have before : position < (ascending values).length := by omega
  rw [List.getD_eq_getElem?_getD, List.getElem?_eq_getElem before, Option.getD_some]
  constructor
  · exact atLeast _ (getElem_ascending_mem before)
  · exact (pairwise_ascending values).sortedLE.getElem_le_getElem_of_le (by omega)

theorem isBetween_average (nonempty : values ≠ []) (lowerShort : lower.natAbs < twoPow 53)
    (upperShort : upper.natAbs < twoPow 53)
    (between : ∀ value ∈ values, lower ≤ value ∧ value ≤ upper) :
    (average values).IsBetween lower upper := by
  apply Binary64.isBetween_ofRatio (List.length_pos_of_ne_nil nonempty) lowerShort upperShort
  · have atLeast := List.card_nsmul_le_sum values lower fun value mem => (between value mem).1
    rwa [nsmul_eq_mul, mul_comm] at atLeast
  · have atMost := List.sum_le_card_nsmul values upper fun value mem => (between value mem).2
    rwa [nsmul_eq_mul, mul_comm] at atMost

end Between

/-- A value at the position `9 * count / 10` of the ascending order, and how many values are not
above and not below it. -/
structure IsNinetieth (values : List Int) (value : Int) : Prop where
  placed : (ascending values)[9 * values.length / 10]? = some value
  notAbove : 9 * values.length / 10 + 1 ≤ values.countP (· ≤ value)
  notBelow : values.length - 9 * values.length / 10 ≤ values.countP (value ≤ ·)

theorem isNinetieth_getElem {values : List Int}
    (bound : 9 * values.length / 10 < (ascending values).length) :
    IsNinetieth values (ascending values)[9 * values.length / 10] := by
  refine ⟨List.getElem?_eq_getElem bound, ?_, ?_⟩
  · rw [← (ascending_perm values).countP_eq]
    exact lt_countP_le (pairwise_ascending values) bound
  · rw [← (ascending_perm values).countP_eq]
    have counted := length_sub_le_countP (pairwise_ascending values) bound
    rwa [length_ascending] at counted

/-- Below `2 ^ 50` values the position is one of the order, so that the median does not stand in. -/
theorem ninetieth_ascending {values : List Int} {value : Int} (few : values.length < 2 ^ 50)
    (placed : (ascending values)[9 * values.length / 10]? = some value) :
    ninetieth (ascending values) = .ofInt value := by
  unfold ninetieth
  rw [length_ascending, ninetiethRank_eq few, placed]

/-- Finite statistics are let through. -/
theorem checked_eq_ok {count : Nat} {average median ninetieth : Binary64}
    (averageFinite : average.isFinite = true) (medianFinite : median.isFinite = true)
    (ninetiethFinite : ninetieth.isFinite = true) :
    MetricStatistics.checked ⟨count, some average, some median, some ninetieth⟩ =
      .ok ⟨count, some average, some median, some ninetieth⟩ := by
  simp [MetricStatistics.checked, MetricStatistics.isInfinite, averageFinite, medianFinite,
    ninetiethFinite]

theorem ofValues_eq {values : List Int} (nonempty : values ≠ []) :
    MetricStatistics.ofValues values = ⟨values.length, some (average values),
      some (median (ascending values)), some (ninetieth (ascending values))⟩ := by
  cases values with
  | nil => contradiction
  | cons value rest => rfl

/-- Statistics of less than `2 ^ 50` integers below `2 ^ 53` are numbers in order: the least value,
the median, the value at nine tenths, which is one of the values, and the greatest value. The
average is between the least and the greatest value. -/
theorem ofValues_in_order (values : List Int) (nonempty : values ≠ [])
    (few : values.length < 2 ^ 50) (short : ∀ value ∈ values, value.natAbs < 2 ^ 53) :
    ninetiethRank values.length = 9 * values.length / 10 ∧
    9 * values.length / 10 < values.length ∧
    ∃ least ninetieth greatest : Int,
      (MetricStatistics.ofValues values).checked = .ok ⟨values.length, some (average values),
        some (median (ascending values)), some (.ofInt ninetieth)⟩ ∧
      IsNinetieth values ninetieth ∧
      values.min? = some least ∧ values.max? = some greatest ∧
      (average values).IsBetween least greatest ∧
      (median (ascending values)).IsBetween least ninetieth ∧
      (Binary64.ofInt ninetieth).IsBetween ninetieth ninetieth ∧ ninetieth ≤ greatest := by
  have positive := List.length_pos_of_ne_nil nonempty
  have bound : 9 * values.length / 10 < (ascending values).length := by
    rw [length_ascending]
    omega
  obtain ⟨least, isLeast⟩ := Option.isSome_iff_exists.mp (List.isSome_min?_of_ne_nil nonempty)
  obtain ⟨greatest, isGreatest⟩ := Option.isSome_iff_exists.mp (List.isSome_max?_of_ne_nil nonempty)
  rcases List.min?_eq_some_iff.mp isLeast with ⟨leastMem, leastLe⟩
  rcases List.max?_eq_some_iff.mp isGreatest with ⟨greatestMem, leGreatest⟩
  have ninetiethMem := getElem_ascending_mem bound
  have averageBetween := isBetween_average nonempty (short least leastMem)
    (short greatest greatestMem) fun value mem => ⟨leastLe value mem, leGreatest value mem⟩
  have medianBetween :=
    isBetween_median_ascending bound (short least leastMem) (short _ ninetiethMem) leastLe
  have ninetiethBetween := Binary64.isBetween_ofInt (short _ ninetiethMem)
  have place := isNinetieth_getElem bound
  refine ⟨ninetiethRank_eq few, by omega, least, _, greatest, ?_, place, isLeast, isGreatest,
    averageBetween, medianBetween, ninetiethBetween, leGreatest _ ninetiethMem⟩
  rw [ofValues_eq nonempty, ninetieth_ascending few place.placed]
  exact checked_eq_ok averageBetween.finite medianBetween.finite ninetiethBetween.finite

/-- Of ten values the ninetieth is the greatest, as nine tenths of ten are the last position. -/
theorem ofValues_in_order_of_ten :
    let values : List Int :=
      [7, -3, 9007199254740991, 7, 0, -9007199254740991, 12, -3, 9007199254740991, 5]
    values ≠ [] ∧ values.length < 2 ^ 50 ∧ (∀ value ∈ values, value.natAbs < 2 ^ 53) ∧
    ninetiethRank 10 = 9 ∧
    (MetricStatistics.ofValues values).checked = .ok ⟨10, some (average values),
      some (median (ascending values)), some (.ofInt 9007199254740991)⟩ ∧
    (average values).IsBetween (-9007199254740991) 9007199254740991 ∧
    (median (ascending values)).IsBetween (-9007199254740991) 9007199254740991 := by
  intro values
  have nonempty : values ≠ [] := by decide
  have few : values.length < 2 ^ 50 := by decide
  have short : ∀ value ∈ values, value.natAbs < 2 ^ 53 := by decide
  obtain ⟨rank, bound, least, ninetieth, greatest, accepted, place, isLeast, isGreatest,
    averageBetween, medianBetween, ninetiethExact, ninetiethLe⟩ :=
    ofValues_in_order values nonempty few short
  obtain rfl : -9007199254740991 = least := Option.some.inj isLeast
  obtain rfl : 9007199254740991 = greatest := Option.some.inj isGreatest
  have length : values.length = 10 := rfl
  rw [length] at rank accepted
  have all : values.countP (· ≤ ninetieth) = values.length := by
    have counted := place.notAbove
    have atMost := values.countP_le_length (p := (· ≤ ninetieth))
    omega
  obtain rfl : ninetieth = 9007199254740991 := by
    have reached := List.countP_eq_length.mp all 9007199254740991 (by decide)
    exact Int.le_antisymm ninetiethLe (of_decide_eq_true reached)
  exact ⟨nonempty, few, short, rank, accepted, averageBetween, medianBetween⟩

end Statistics

end DeliveryCycle
