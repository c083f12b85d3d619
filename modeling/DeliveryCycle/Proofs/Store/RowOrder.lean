import Mathlib.Data.List.Perm.Basic

/-!
# Orders of rows

Rows are put in the order of a number, such as the time at which they were created, and rows with
equal numbers in the order of a text. If no two rows agree on both, there is only one such order of
them, however they were stored: `mergeSort_precedes_eq_of_perm`.
-/

namespace DeliveryCycle

variable {Row : Type} {number : Row → Int} {text : Row → String}

/-- Whether a row comes before another one by a number, or by a text if the numbers are equal. -/
def precedes (number : Row → Int) (text : Row → String) (left right : Row) : Bool :=
  number left < number right || (number left = number right && text left ≤ text right)

theorem precedes_iff {left right : Row} :
    precedes number text left right = true ↔
      number left < number right ∨ number left = number right ∧ text left ≤ text right := by
  simp [precedes]

theorem precedes_trans (left middle right : Row) (first : precedes number text left middle = true)
    (second : precedes number text middle right = true) :
    precedes number text left right = true := by
  rw [precedes_iff] at *
  rcases first with earlier | ⟨same, before⟩
  · left
    rcases second with later | ⟨equal, _⟩ <;> omega
  · rcases second with later | ⟨equal, next⟩
    · left
      omega
    · exact .inr ⟨same.trans equal, String.le_trans before next⟩

theorem precedes_total (left right : Row) :
    (precedes number text left right || precedes number text right left) = true := by
  rw [Bool.or_eq_true, precedes_iff, precedes_iff]
  rcases Int.lt_trichotomy (number left) (number right) with earlier | same | later
  · exact .inl (.inl earlier)
  · rcases String.le_total (text left) (text right) with before | after
    · exact .inl (.inr ⟨same, before⟩)
    · exact .inr (.inr ⟨same.symm, after⟩)
  · exact .inr (.inl later)

theorem eq_of_precedes {left right : Row} (first : precedes number text left right = true)
    (second : precedes number text right left = true) :
    number left = number right ∧ text left = text right := by
  rw [precedes_iff] at first second
  rcases first with earlier | ⟨same, before⟩
  · rcases second with later | ⟨equal, _⟩ <;> omega
  · rcases second with later | ⟨_, after⟩
    · omega
    · exact ⟨same, String.le_antisymm before after⟩

/-- Rows are in order after they are sorted. -/
theorem pairwise_mergeSort_precedes (rows : List Row) :
    (rows.mergeSort (precedes number text)).Pairwise
      fun left right => precedes number text left right = true :=
  List.pairwise_mergeSort precedes_trans precedes_total rows

/-- Rows that differ in their number or their text have one order only. -/
theorem eq_of_perm_of_pairwise_precedes {first second : List Row} (perm : first.Perm second)
    (firstOrdered : first.Pairwise fun left right => precedes number text left right = true)
    (secondOrdered : second.Pairwise fun left right => precedes number text left right = true)
    (differ : ∀ left ∈ first, ∀ right ∈ first, number left = number right →
      text left = text right → left = right) : first = second := by
  apply List.Perm.eq_of_pairwise _ firstOrdered secondOrdered perm
  intro left right leftMem rightMem before after
  rcases eq_of_precedes before after with ⟨sameNumber, sameText⟩
  exact differ left leftMem right (perm.mem_iff.mpr rightMem) sameNumber sameText

theorem mergeSort_precedes_eq_of_perm {first second : List Row} (perm : first.Perm second)
    (differ : ∀ left ∈ first, ∀ right ∈ first, number left = number right →
      text left = text right → left = right) :
    first.mergeSort (precedes number text) = second.mergeSort (precedes number text) := by
  apply eq_of_perm_of_pairwise_precedes _ (pairwise_mergeSort_precedes first)
    (pairwise_mergeSort_precedes second)
  · intro left leftMem right rightMem
    exact differ left (List.mem_mergeSort.mp leftMem) right (List.mem_mergeSort.mp rightMem)
  · calc
      (first.mergeSort (precedes number text)).Perm first := List.mergeSort_perm _ _
      _ |>.Perm second := perm
      _ |>.Perm (second.mergeSort (precedes number text)) := (List.mergeSort_perm _ _).symm

/-- The first one of the rows in the order of a time is not after any other one. -/
theorem le_of_head?_mergeSort {time : Row → Nat} {rows : List Row} {first row : Row}
    (head : (rows.mergeSort fun left right => time left ≤ time right).head? = some first)
    (mem : row ∈ rows) : time first ≤ time row := by
  have ordered : (rows.mergeSort fun left right => time left ≤ time right).Pairwise
      fun left right => time left ≤ time right := by
    refine (List.pairwise_mergeSort ?_ ?_ rows).imp of_decide_eq_true
    · intro left middle right
      simp only [decide_eq_true_eq]
      exact Nat.le_trans
    · intro left right
      simpa using Nat.le_total _ _
  have sortedMem : row ∈ rows.mergeSort fun left right => time left ≤ time right :=
    List.mem_mergeSort.mpr mem
  rcases List.head?_eq_some_iff.mp head with ⟨rest, sorted⟩
  rw [sorted] at ordered sortedMem
  rcases List.mem_cons.mp sortedMem with rfl | later
  · exact Nat.le_refl _
  · exact List.rel_of_pairwise_cons ordered later

end DeliveryCycle
