import DeliveryCycle.Number.DecimalText
import DeliveryCycle.Store.Edit

/-!
# Comparing a column of integers

A column of integers can be compared with a value of any kind. A truth value counts as one or zero,
a number as the integer that it equals, and a text as the number that it stands for. Null and
everything else equals no integer; a list or an object cannot be compared at all.
-/

namespace DeliveryCycle

/-- The integer that a text equals in a comparison. -/
def integerOfText? (text : String) : Option Int := do
  let decimal ← Decimal.ofText? text.toList
  match decimal.asInteger?.filter fitsColumn with
  | some value => return value
  | none => decimal.toBinary64.toInt?

/-- The integer that a value equals in a comparison with a column, if it equals one. -/
def comparedInteger : Json → Except StoreError (Option Int)
  | .int value => do
      checkInteger value
      return some value
  | .bool value => .ok (some (if value then 1 else 0))
  | .real value => .ok value.toInt?
  | .string text => .ok (integerOfText? text)
  | .null | .unpaired _ => .ok none
  | .unpairedName _ value => comparedInteger value
  | .array _ | .object _ => .error .unsupported

/-- An integer that fits equals itself. -/
theorem comparedInteger_int {value : Int} (fits : fitsColumn value = true) :
    comparedInteger (.int value) = .ok (some value) := by
  simp [comparedInteger, checkInteger, fits, bind, Except.bind, pure, Except.pure]

end DeliveryCycle
