import DeliveryCycle.Record.Ledger

/-!
# Writing into the ledger

The view of a ledger is `recordsOf`: the records of one task. Writing a record changes this view in
one place. `recordsOf_put_self` says that the record is then the only one of its task, and
`recordsOf_put_of_ne` that the records of all other tasks stay. The first needs a ledger in which no
two records share a primary key; writing keeps that, by `WellKeyed.put`. Two ledgers with the same
view hold the same records, by `perm_of_recordsOf_eq`.
-/

namespace DeliveryCycle.Ledger

/-- No two records share a primary key. -/
def WellKeyed (ledger : Ledger) : Prop :=
  ledger.Pairwise fun left right => left.key ≠ right.key

theorem key_eq_iff {left right : CycleRecord Moment} :
    left.key = right.key ↔ left.task = right.task ∧ left.deploymentId = right.deploymentId := by
  simp only [CycleRecord.key, CycleRecord.task, Prod.mk.injEq]
  constructor
  · rintro ⟨sameTask, sameDeployment, sameConnection⟩
    exact ⟨⟨sameConnection, sameTask⟩, sameDeployment⟩
  · rintro ⟨⟨sameConnection, sameTask⟩, sameDeployment⟩
    exact ⟨sameTask, sameDeployment, sameConnection⟩

theorem recordsOf_dropOthers_of_ne (ledger : Ledger) {record : CycleRecord Moment}
    {task : Int × String} (differ : task ≠ record.task) :
    recordsOf (dropOthers ledger record) task = recordsOf ledger task := by
  unfold recordsOf dropOthers
  rw [List.filter_filter]
  apply List.filter_congr
  intro other _
  by_cases same : other.task = task
  · simp [same, differ]
  · simp [same]

theorem recordsOf_insertOrReplace_of_ne (ledger : Ledger) {record : CycleRecord Moment}
    {task : Int × String} (differ : task ≠ record.task) :
    recordsOf (insertOrReplace ledger record) task = recordsOf ledger task := by
  induction ledger with
  | nil => simp [insertOrReplace, recordsOf, Ne.symm differ]
  | cons other rest ih =>
    by_cases replaced : other.key = record.key
    · have sameTask := (key_eq_iff.mp replaced).1
      simp [insertOrReplace, recordsOf, replaced, sameTask, Ne.symm differ]
    · simp only [insertOrReplace, replaced, if_false, recordsOf, List.filter_cons] at ih ⊢
      rw [ih]

theorem recordsOf_put_of_ne (ledger : Ledger) {record : CycleRecord Moment} {task : Int × String}
    (differ : task ≠ record.task) : recordsOf (ledger.put record) task = recordsOf ledger task :=
  (recordsOf_insertOrReplace_of_ne _ differ).trans (recordsOf_dropOthers_of_ne ledger differ)

/-- After the first statement all records of the task are under the record's own key. -/
theorem key_of_mem_dropOthers {ledger : Ledger} {record other : CycleRecord Moment}
    (kept : other ∈ dropOthers ledger record) (sameTask : other.task = record.task) :
    other.key = record.key := by
  refine key_eq_iff.mpr ⟨sameTask, ?_⟩
  have condition := (List.mem_filter.mp kept).2
  simpa [sameTask] using condition

/-- The second statement leaves one record of the task if all were under the record's own key. -/
theorem recordsOf_insertOrReplace_self {ledger : Ledger} {record : CycleRecord Moment}
    (wellKeyed : ledger.WellKeyed)
    (ownKey : ∀ other ∈ ledger, other.task = record.task → other.key = record.key) :
    recordsOf (insertOrReplace ledger record) record.task = [record] := by
  induction ledger with
  | nil => simp [insertOrReplace, recordsOf]
  | cons other rest ih =>
    rcases List.pairwise_cons.mp wellKeyed with ⟨differ, restKeyed⟩
    by_cases replaced : other.key = record.key
    · have noneLeft : recordsOf rest record.task = [] := by
        apply List.filter_eq_nil_iff.mpr
        intro later laterMem sameTask
        have laterKey := ownKey later (List.mem_cons_of_mem _ laterMem) (by simpa using sameTask)
        exact differ later laterMem (replaced.trans laterKey.symm)
      simpa [insertOrReplace, replaced, recordsOf] using noneLeft
    · have otherTask : other.task ≠ record.task := fun sameTask =>
        replaced (ownKey other List.mem_cons_self sameTask)
      have left := ih restKeyed fun later laterMem =>
        ownKey later (List.mem_cons_of_mem _ laterMem)
      simpa [insertOrReplace, replaced, recordsOf, otherTask] using left

/-- Writing a record leaves it as the only record of its task. -/
theorem recordsOf_put_self {ledger : Ledger} (wellKeyed : ledger.WellKeyed)
    (record : CycleRecord Moment) : recordsOf (ledger.put record) record.task = [record] :=
  recordsOf_insertOrReplace_self (List.Pairwise.filter _ wellKeyed) fun _ kept sameTask =>
    key_of_mem_dropOthers kept sameTask

theorem mem_insertOrReplace {ledger : Ledger} {record other : CycleRecord Moment}
    (mem : other ∈ insertOrReplace ledger record) : other = record ∨ other ∈ ledger := by
  induction ledger with
  | nil => exact .inl (by simpa [insertOrReplace] using mem)
  | cons first rest ih =>
    by_cases replaced : first.key = record.key
    · simp only [insertOrReplace, replaced, if_true, List.mem_cons] at mem
      exact mem.imp_right (List.mem_cons_of_mem _)
    · simp only [insertOrReplace, replaced, if_false, List.mem_cons] at mem
      rcases mem with rfl | later
      · exact .inr List.mem_cons_self
      · exact (ih later).imp_right (List.mem_cons_of_mem _)

theorem WellKeyed.put {ledger : Ledger} (wellKeyed : ledger.WellKeyed)
    (record : CycleRecord Moment) : (ledger.put record).WellKeyed := by
  have kept : (dropOthers ledger record).WellKeyed := List.Pairwise.filter _ wellKeyed
  unfold Ledger.put
  generalize dropOthers ledger record = rows at kept
  induction rows with
  | nil => simp [insertOrReplace, WellKeyed]
  | cons other rest ih =>
    rcases List.pairwise_cons.mp kept with ⟨differ, restKeyed⟩
    by_cases replaced : other.key = record.key
    · simp only [insertOrReplace, replaced, if_true]
      exact List.pairwise_cons.mpr ⟨fun later laterMem => replaced ▸ differ later laterMem,
        restKeyed⟩
    · simp only [insertOrReplace, replaced, if_false]
      refine List.pairwise_cons.mpr ⟨fun later laterMem => ?_, ih restKeyed⟩
      rcases mem_insertOrReplace laterMem with rfl | old
      · exact replaced
      · exact differ later old

theorem recordsOf_put {ledger : Ledger} (wellKeyed : ledger.WellKeyed)
    (record : CycleRecord Moment) (task : Int × String) :
    recordsOf (ledger.put record) task =
      if task = record.task then [record] else recordsOf ledger task := by
  split
  · rename_i same
    exact same ▸ recordsOf_put_self wellKeyed record
  · rename_i differ
    exact recordsOf_put_of_ne ledger differ

/-- The second statement changes nothing if the record is there. -/
theorem insertOrReplace_eq_self {ledger : Ledger} {record : CycleRecord Moment}
    (wellKeyed : ledger.WellKeyed) (mem : record ∈ ledger) :
    insertOrReplace ledger record = ledger := by
  induction ledger with
  | nil => contradiction
  | cons other rest ih =>
    rcases List.pairwise_cons.mp wellKeyed with ⟨differ, restKeyed⟩
    rcases List.mem_cons.mp mem with rfl | later
    · simp [insertOrReplace]
    · simp [insertOrReplace, differ record later, ih restKeyed later]

/-- Writing a record that is the only one of its task changes nothing. -/
theorem put_eq_self {ledger : Ledger} {record : CycleRecord Moment}
    (wellKeyed : ledger.WellKeyed) (only : recordsOf ledger record.task = [record]) :
    ledger.put record = ledger := by
  have ofTask : ∀ other ∈ ledger, other.task = record.task → other = record := by
    intro other otherMem sameTask
    have viewed : other ∈ recordsOf ledger record.task :=
      List.mem_filter.mpr ⟨otherMem, by simpa using sameTask⟩
    simpa [only] using viewed
  have noneDropped : dropOthers ledger record = ledger := by
    apply List.filter_eq_self.mpr
    intro other otherMem
    by_cases sameTask : other.task = record.task
    · simp [ofTask other otherMem sameTask]
    · simp [sameTask]
  have mem : record ∈ ledger := by
    have viewed : record ∈ recordsOf ledger record.task := by simp [only]
    exact (List.mem_filter.mp viewed).1
  rw [Ledger.put, noneDropped, insertOrReplace_eq_self wellKeyed mem]

/-- Two ledgers with the same records of every task hold the same records. -/
theorem perm_of_recordsOf_eq {left right : Ledger}
    (same : ∀ task, recordsOf left task = recordsOf right task) : left.Perm right := by
  apply List.perm_iff_count.mpr
  intro record
  have counted (ledger : Ledger) : (recordsOf ledger record.task).count record =
      ledger.count record := List.count_filter (by simp)
  rw [← counted left, ← counted right, same]

end DeliveryCycle.Ledger
