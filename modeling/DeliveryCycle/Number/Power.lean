/-!
# Powers of two and of ten

The scales of binary and of decimal numbers. Both are given by their steps: a scale one further up
is the base times as large.
-/

namespace DeliveryCycle.Number

def twoPow (exponent : Nat) : Nat := Nat.pow 2 exponent

def tenPow (exponent : Nat) : Nat := Nat.pow 10 exponent

@[simp] theorem twoPow_zero : twoPow 0 = 1 := rfl

@[simp] theorem tenPow_zero : tenPow 0 = 1 := rfl

theorem twoPow_succ (exponent : Nat) : twoPow (exponent + 1) = twoPow exponent * 2 := rfl

theorem twoPow_pos (exponent : Nat) : 0 < twoPow exponent := by
  induction exponent with
  | zero => exact Nat.zero_lt_one
  | succ exponent ih => exact Nat.mul_pos ih Nat.zero_lt_two

end DeliveryCycle.Number
