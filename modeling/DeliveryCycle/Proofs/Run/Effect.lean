import DeliveryCycle.Proofs.Matching.Candidates
import DeliveryCycle.Proofs.Run.Walk
import DeliveryCycle.Record.Ledger.Lemmas

/-!
# What a run leaves in the ledger

No two candidates are about one task, so a run writes at most one record for each task.
`recordLeft?` is this record, and `recordsOf_foldl_write` is the view of the ledger after the
candidates: the record is the only one of its task, and a task without such a record has the records
that it had before. Faults and signals only take records away: what a run of a plan writes for a
task, an undisturbed one writes as well.
-/

namespace DeliveryCycle

namespace RunPlan

variable {plan : RunPlan} {ledger : Ledger} {item : WorkItem} {items : List WorkItem}
variable {task : Int × String} {record : CycleRecord Moment}

/-- The record that candidates leave for a task, if any. -/
def recordLeft? (plan : RunPlan) (items : List WorkItem) (task : Int × String) :
    Option (CycleRecord Moment) :=
  (items.find? fun item => item.key = task).bind plan.freshRecord?

theorem wellKeyed_write (wellKeyed : ledger.WellKeyed) : (plan.write ledger item).WellKeyed := by
  unfold write
  split
  · exact wellKeyed.put _
  · exact wellKeyed

theorem wellKeyed_foldl_write (wellKeyed : ledger.WellKeyed) :
    (items.foldl plan.write ledger).WellKeyed := by
  induction items generalizing ledger with
  | nil => exact wellKeyed
  | cons item rest ih => exact ih (wellKeyed_write wellKeyed)

theorem recordsOf_write (wellKeyed : ledger.WellKeyed) (task : Int × String) :
    Ledger.recordsOf (plan.write ledger item) task =
      match plan.recordLeft? [item] task with
      | some record => [record]
      | none => ledger.recordsOf task := by
  unfold write
  cases fresh : plan.freshRecord? item with
  | none =>
      have left : plan.recordLeft? [item] task = none := by
        by_cases same : item.key = task <;> simp [recordLeft?, same, fresh]
      rw [left]
  | some record =>
      have about := task_of_freshRecord? fresh
      by_cases same : item.key = task
      · simp [recordLeft?, Ledger.recordsOf_put wellKeyed, same, fresh, about]
      · simp [recordLeft?, Ledger.recordsOf_put wellKeyed, same, about, Ne.symm same]

theorem recordLeft?_of_not_mem (absent : task ∉ items.map (·.key)) :
    plan.recordLeft? items task = none := by
  have noneFound : (items.find? fun item => item.key = task) = none := by
    apply List.find?_eq_none.mpr
    intro item mem same
    exact absent (List.mem_map.mpr ⟨item, mem, by simpa using same⟩)
  simp [recordLeft?, noneFound]

/-- The record that candidates leave for a task is the fresh one of the candidate about it. -/
theorem recordLeft?_eq_some_iff (nodup : (items.map (·.key)).Nodup) :
    plan.recordLeft? items task = some record ↔
      ∃ item ∈ items, item.key = task ∧ plan.freshRecord? item = some record := by
  constructor
  · intro left
    rcases Option.bind_eq_some_iff.mp left with ⟨item, found, fresh⟩
    have same := List.find?_some found
    exact ⟨item, List.mem_of_find?_eq_some found, by simpa using same, fresh⟩
  · rintro ⟨item, mem, same, fresh⟩
    have isSome : (items.find? fun item => item.key = task).isSome :=
      List.find?_isSome.mpr ⟨item, mem, by simpa using same⟩
    rcases Option.isSome_iff_exists.mp isSome with ⟨found, foundEq⟩
    have foundKey := List.find?_some foundEq
    have sameItem : found = item :=
      List.inj_on_of_nodup_map nodup (List.mem_of_find?_eq_some foundEq) mem (by
        simpa [same] using foundKey)
    simp [recordLeft?, foundEq, sameItem, fresh]

theorem recordLeft?_eq_none_iff (nodup : (items.map (·.key)).Nodup) :
    plan.recordLeft? items task = none ↔
      ∀ item ∈ items, item.key = task → plan.freshRecord? item = none := by
  simp only [Option.eq_none_iff_forall_ne_some, ne_eq, recordLeft?_eq_some_iff nodup]
  constructor
  · intro noneLeft item mem same record fresh
    exact noneLeft record ⟨item, mem, same, fresh⟩
  · rintro noneFresh record ⟨item, mem, same, fresh⟩
    exact noneFresh item mem same record fresh

/-- The view of a ledger after the work on candidates. -/
theorem recordsOf_foldl_write (wellKeyed : ledger.WellKeyed)
    (nodup : (items.map (·.key)).Nodup) (task : Int × String) :
    Ledger.recordsOf (items.foldl plan.write ledger) task =
      match plan.recordLeft? items task with
      | some record => [record]
      | none => ledger.recordsOf task := by
  induction items generalizing ledger with
  | nil => rfl
  | cons item rest ih =>
      rcases List.nodup_cons.mp nodup with ⟨absent, restNodup⟩
      rw [List.foldl_cons, ih (wellKeyed_write wellKeyed) restNodup, recordsOf_write wellKeyed]
      by_cases same : item.key = task
      · have restLeft : plan.recordLeft? rest task = none :=
          recordLeft?_of_not_mem (by simpa [← same] using absent)
        rw [restLeft]
        simp [recordLeft?, same]
      · simp [recordLeft?, same]

theorem recordLeft?_append {later : List WorkItem} (mem : task ∈ items.map (·.key)) :
    plan.recordLeft? (items ++ later) task = plan.recordLeft? items task := by
  rcases List.mem_map.mp mem with ⟨item, itemMem, same⟩
  have isSome : (items.find? fun item => item.key = task).isSome :=
    List.find?_isSome.mpr ⟨item, itemMem, by simpa using same⟩
  rcases Option.isSome_iff_exists.mp isSome with ⟨found, foundEq⟩
  simp [recordLeft?, List.find?_append, foundEq]

/-- The view of a ledger after a prefix of candidates: the tasks of the prefix have the records that
they have after all candidates, and no other task has changed. -/
theorem recordsOf_foldl_write_take (wellKeyed : ledger.WellKeyed)
    (nodup : (items.map (·.key)).Nodup) (count : Nat) (task : Int × String) :
    Ledger.recordsOf ((items.take count).foldl plan.write ledger) task =
      if task ∈ (items.take count).map (·.key) then
        Ledger.recordsOf (items.foldl plan.write ledger) task
      else ledger.recordsOf task := by
  have takenNodup : ((items.take count).map (·.key)).Nodup :=
    nodup.sublist ((List.take_sublist count items).map _)
  rw [recordsOf_foldl_write wellKeyed takenNodup, recordsOf_foldl_write wellKeyed nodup]
  by_cases mem : task ∈ (items.take count).map (·.key)
  · have same : plan.recordLeft? items task = plan.recordLeft? (items.take count) task := by
      conv_lhs => rw [← List.take_append_drop count items]
      exact recordLeft?_append mem
    rw [if_pos mem, same]
  · rw [if_neg mem, recordLeft?_of_not_mem mem]

/-- Candidates whose records are there already change nothing. -/
theorem foldl_write_eq_self (wellKeyed : ledger.WellKeyed)
    (written : ∀ item ∈ items, ∀ record, plan.freshRecord? item = some record →
      ledger.recordsOf item.key = [record]) :
    items.foldl plan.write ledger = ledger := by
  induction items with
  | nil => rfl
  | cons item rest ih =>
      have unchanged : plan.write ledger item = ledger := by
        unfold write
        split
        · rename_i record fresh
          have only := written item List.mem_cons_self record fresh
          exact Ledger.put_eq_self wellKeyed (task_of_freshRecord? fresh ▸ only)
        · rfl
      rw [List.foldl_cons, unchanged]
      apply ih
      intro other otherMem
      exact written other (List.mem_cons_of_mem _ otherMem)

/-- The plan of a run that nothing disturbs. -/
def clean (collected : Collected) (project : String) : RunPlan := ⟨collected, project, .none, .none⟩

/-- Without faults a candidate has a fresh record exactly if it can be resolved. -/
theorem freshRecord?_clean (collected : Collected) (project : String) (item : WorkItem) :
    (clean collected project).freshRecord? item =
      ((clean collected project).correlation? item).map (·.momentRecord) := by
  have spared : (clean collected project).faults.Spares item.key := ⟨rfl, rfl, rfl, rfl⟩
  simp [freshRecord?, spared]

/-- What a run writes for some of its candidates, an undisturbed one writes as well. -/
theorem recordLeft?_clean (nodup : ((plan.collected.candidates plan.project).map (·.key)).Nodup)
    (started : items <+: plan.collected.candidates plan.project)
    (left : plan.recordLeft? items task = some record) :
    (clean plan.collected plan.project).recordLeft? (plan.collected.candidates plan.project) task =
      some record := by
  have startedNodup : (items.map (·.key)).Nodup := nodup.sublist (started.sublist.map _)
  rcases (recordLeft?_eq_some_iff startedNodup).mp left with ⟨item, mem, same, fresh⟩
  rcases freshRecord?_eq_some_iff.mp fresh with ⟨_, correlation, resolved, rfl⟩
  refine (recordLeft?_eq_some_iff nodup).mpr ⟨item, started.subset mem, same, ?_⟩
  have found : (clean plan.collected plan.project).correlation? item = some correlation := resolved
  simp [freshRecord?_clean, found]

end RunPlan

end DeliveryCycle
