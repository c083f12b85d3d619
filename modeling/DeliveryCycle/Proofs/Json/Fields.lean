import DeliveryCycle.Json.Value
import Mathlib

/-!
# Fields that are put in by name

Putting fields into a list keeps their names distinct. The names that were there keep their places,
and the new ones follow in the order in which they come; each has the value that was put in last.
-/

namespace DeliveryCycle

section Fields

variable {ν α β : Type} [DecidableEq ν] {fields updates : List (ν × α)} {name : ν} {value : α}

theorem setFields_cons (fields : List (ν × α)) (update : ν × α) (rest : List (ν × α)) :
    setFields fields (update :: rest) = setFields (setField fields update.1 update.2) rest := rfl

theorem setField_of_notMem (absent : name ∉ fields.map (·.1)) (value : α) :
    setField fields name value = fields ++ [(name, value)] := by
  induction fields with
  | nil => rfl
  | cons field rest ih =>
      rw [List.map_cons, List.mem_cons, not_or] at absent
      rw [setField, if_neg (Ne.symm absent.1), ih absent.2, List.cons_append]

theorem setFields_of_nodup (distinct : ((fields ++ updates).map (·.1)).Nodup) :
    setFields fields updates = fields ++ updates := by
  induction updates generalizing fields with
  | nil => exact (List.append_nil fields).symm
  | cons update rest ih =>
      have absent : update.1 ∉ fields.map (·.1) := by
        intro mem
        rw [List.map_append, List.map_cons] at distinct
        exact List.disjoint_of_nodup_append distinct mem List.mem_cons_self
      have together : fields ++ [update] ++ rest = fields ++ update :: rest := by
        rw [List.append_assoc, List.singleton_append]
      rw [setFields_cons, setField_of_notMem absent, ih, together]
      rwa [together]

end Fields

end DeliveryCycle
