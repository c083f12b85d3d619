import DeliveryCycle.Proofs.Record.LastWrite
import DeliveryCycle.Proofs.Run.Convergence

/-!
# One record for each task

The primary key of the records lets a task have several of them, one for each deployment. That a
task has one record at most is an invariant of the two statements of an upsert: the first one only
takes records away, and the second one leaves the record as the only one of its task. So it holds of
every store that upserts and runs lead to from a store without records, whatever goes wrong in them,
by `singleRecords_of_history`.
-/

namespace DeliveryCycle

namespace Ledger

variable {ledger : Ledger} {record : CycleRecord Moment} {draft : RecordDraft}

/-- No two records are of one task. -/
def SingleRecords (ledger : Ledger) : Prop := (ledger.map (·.task)).Nodup

theorem singleRecords_iff :
    ledger.SingleRecords ↔ ∀ task, (ledger.recordsOf task).length ≤ 1 := by
  have counted (task : Int × String) :
      (ledger.map (·.task)).count task = (ledger.recordsOf task).length := by
    rw [List.count, List.countP_map, recordsOf, ← List.countP_eq_length_filter]
    apply List.countP_congr
    intro record _
    simp
  simp only [SingleRecords, List.nodup_iff_count_le_one, counted]

theorem SingleRecords.recordsOf_cases (single : ledger.SingleRecords) (task : Int × String) :
    ledger.recordsOf task = [] ∨ ∃ record, ledger.recordsOf task = [record] := by
  have atMostOne := singleRecords_iff.mp single task
  rcases Nat.le_one_iff_eq_zero_or_eq_one.mp atMostOne with none | one
  · exact .inl (List.eq_nil_of_length_eq_zero none)
  · exact .inr (List.length_eq_one_iff.mp one)

theorem SingleRecords.wellKeyed (single : ledger.SingleRecords) : ledger.WellKeyed := by
  apply (List.pairwise_map.mp single).imp
  intro left right differ sameKey
  exact differ (key_eq_iff.mp sameKey).1

theorem SingleRecords.put (single : ledger.SingleRecords) (record : CycleRecord Moment) :
    (ledger.put record).SingleRecords := by
  apply singleRecords_iff.mpr
  intro task
  rw [recordsOf_put single.wellKeyed]
  split
  · exact Nat.le_refl 1
  · exact singleRecords_iff.mp single task

theorem SingleRecords.dropDisplaced (single : ledger.SingleRecords) (draft : RecordDraft) :
    (ledger.dropDisplaced draft).SingleRecords :=
  single.sublist (List.filter_sublist.map _)

/-- Whatever an upsert did until it ended, no task has two records. -/
theorem SingleRecords.upsertStatements (single : ledger.SingleRecords) (draft : RecordDraft) :
    (ledger.upsertStatements draft).ledger.SingleRecords := by
  unfold Ledger.upsertStatements
  split
  · exact single
  · dsimp only
    split
    · exact single.dropDisplaced draft
    · split
      · rename_i record complete
        rw [insertOrReplace_dropDisplaced complete]
        exact single.put record
      · exact single.dropDisplaced draft

theorem SingleRecords.transact (single : ledger.SingleRecords) (given : CellMap) :
    (ledger.transact given).SingleRecords := by
  cases accepted : writtenRecord? given with
  | none => rwa [transact_of_refused accepted]
  | some record =>
      rw [transact_of_written accepted]
      exact single.put record

theorem SingleRecords.foldl_write (single : ledger.SingleRecords) (plan : RunPlan)
    (items : List WorkItem) : (items.foldl plan.write ledger).SingleRecords := by
  induction items generalizing ledger with
  | nil => exact single
  | cons item rest ih =>
      apply ih
      unfold RunPlan.write
      split
      · exact single.put _
      · exact single

end Ledger

namespace Store

variable {store after : Store} {collected : Collected}

/-- What may happen to a store between two looks at its records: an upsert in a transaction of its
own, an upsert that is not undone if it is refused, an attempt to run a project, or a change of the
rows that collectors brought in. -/
inductive Change : Store → Store → Prop
  | upserted (store : Store) (given : CellMap) :
      Change store (store.withLedger (store.ledger.transact given))
  | unprotected (store : Store) (draft : RecordDraft) :
      Change store (store.withLedger (store.ledger.upsertStatements draft).ledger)
  | performed (store : Store) (attempt : Attempt) : Change store (attempt.perform store).store
  | collected (store : Store) (collected : Collected) :
      Change store { store with collected := collected }

/-- An attempt leaves the records as they were, or those that its run has written. -/
theorem singleRecords_perform (single : store.ledger.SingleRecords) (attempt : Attempt) :
    (attempt.perform store).store.ledger.SingleRecords := by
  rw [Attempt.perform_store]
  cases ended : (calculate attempt.environment store attempt.request).result with
  | error error => rwa [calculate_store_of_failed ended]
  | ok summary =>
      rcases accepted_of_returned ended with ⟨options, accepted⟩
      rcases calculate_of_returned accepted ended with ⟨returned, committed, _⟩
      rw [committed, Store.withLedger, (RunPlan.run_effect returned).1]
      exact single.foldl_write _ _

theorem singleRecords_change (single : store.ledger.SingleRecords) (change : Change store after) :
    after.ledger.SingleRecords := by
  cases change with
  | upserted given => exact single.transact given
  | unprotected draft => exact single.upsertStatements draft
  | performed attempt => exact singleRecords_perform single attempt
  | collected collected => exact single

/-- From a store without records no history leads to a store in which a task has two. -/
theorem singleRecords_of_history (history : Relation.ReflTransGen Change ⟨collected, []⟩ store) :
    store.ledger.SingleRecords := by
  induction history with
  | refl => exact List.nodup_nil
  | tail _ last ih => exact singleRecords_change ih last

end Store

end DeliveryCycle
