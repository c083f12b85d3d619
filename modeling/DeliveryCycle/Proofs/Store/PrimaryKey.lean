import DeliveryCycle.Proofs.Store.Edited
import DeliveryCycle.Record.Ledger.Lemmas
import Mathlib.Data.List.Nodup

/-!
# Primary keys

No two rows of a table share a primary key. The empty store has this property and every edit that is
not refused keeps it, so that it holds for every store that edits lead to. `KeysApart` says it of
the rows of one table by their cells, whatever the table; `WorkItem.key` and `CycleRecord.key` give
the same cells as values.
-/

namespace DeliveryCycle

section Rows

variable {Row : Type} [Entity Row]

/-- No two rows of a table share a primary key. -/
def KeysApart (rows : List Row) : Prop :=
  rows.Pairwise fun left right => keyCells left ≠ keyCells right

theorem KeysApart.eq_of_keyCells_eq {rows : List Row} {left right : Row}
    (apart : KeysApart rows) (leftMem : left ∈ rows) (rightMem : right ∈ rows)
    (same : keyCells left = keyCells right) : left = right := by
  have nodup : (rows.map keyCells).Nodup := List.pairwise_map.mpr apart
  exact List.inj_on_of_nodup_map nodup leftMem rightMem same

/-- The check of a whole table finds exactly the tables whose keys are apart. -/
theorem keysDistinct_eq_true_iff {rows : List Row} : keysDistinct rows = true ↔ KeysApart rows := by
  induction rows with
  | nil => simp [keysDistinct, KeysApart]
  | cons row rest ih =>
      have headApart : (∀ other ∈ rest, ¬keyCells other = keyCells row) ↔
          ∀ other ∈ rest, keyCells row ≠ keyCells other := by
        simp only [ne_eq, eq_comm]
      simp only [KeysApart, List.pairwise_cons] at ih ⊢
      simp [keysDistinct, ih, headApart]

theorem KeysApart.insertRow {rows inserted : List Row} {given : CellMap} (apart : KeysApart rows)
    (accepted : DeliveryCycle.insertRow rows given = .ok inserted) : KeysApart inserted := by
  simp only [DeliveryCycle.insertRow, bind, Except.bind] at accepted
  split at accepted
  · contradiction
  · split at accepted
    · rename_i row _
      split at accepted
      · contradiction
      · rename_i free
        simp only [pure, Except.pure, Except.ok.injEq] at accepted
        subst accepted
        refine List.pairwise_append.mpr ⟨apart, by simp, ?_⟩
        intro other otherMem added addedMem
        simp only [List.mem_singleton] at addedMem
        subst added
        simp only [List.any_eq_true, decide_eq_true_eq, not_exists, not_and] at free
        exact free other otherMem
    · contradiction

theorem KeysApart.insertRows {rows inserted : List Row} {given : List CellMap}
    (apart : KeysApart rows) (accepted : DeliveryCycle.insertRows rows given = .ok inserted) :
    KeysApart inserted := by
  induction given generalizing rows with
  | nil =>
      simp only [DeliveryCycle.insertRows, List.foldlM_nil, pure, Except.pure,
        Except.ok.injEq] at accepted
      exact accepted ▸ apart
  | cons first rest ih =>
      simp only [DeliveryCycle.insertRows, List.foldlM_cons, bind, Except.bind] at accepted ih
      split at accepted
      · contradiction
      · rename_i next firstAccepted
        exact ih (apart.insertRow firstAccepted) accepted

/-- Values that were replaced keep the keys apart. -/
theorem KeysApart.updateRows {rows updated : List Row} {condition values : CellMap} {count : Nat}
    (accepted : DeliveryCycle.updateRows rows condition values = .ok (updated, count)) :
    KeysApart updated := by
  simp only [DeliveryCycle.updateRows, bind, Except.bind] at accepted
  split at accepted
  · contradiction
  · split at accepted
    · contradiction
    · split at accepted
      · contradiction
      · split at accepted
        · rename_i distinct
          simp only [pure, Except.pure, Except.ok.injEq, Prod.mk.injEq] at accepted
          exact accepted.1 ▸ keysDistinct_eq_true_iff.mp distinct
        · contradiction

theorem KeysApart.deleteRows {rows left : List Row} {condition : CellMap} {count : Nat}
    (apart : KeysApart rows)
    (accepted : DeliveryCycle.deleteRows rows condition = .ok (left, count)) : KeysApart left := by
  simp only [DeliveryCycle.deleteRows, bind, Except.bind] at accepted
  split at accepted
  · contradiction
  · simp only [pure, Except.pure, Except.ok.injEq, Prod.mk.injEq] at accepted
    exact accepted.1 ▸ List.Pairwise.filter _ apart

/-- An edit of a table keeps the keys apart. -/
theorem KeysApart.applyTo {rows edited : List Row} {edit : Edit} {count : Nat}
    (apart : KeysApart rows) (accepted : edit.applyTo rows = .ok (edited, count)) :
    KeysApart edited := by
  cases edit with
  | insert given =>
      simp only [Edit.applyTo, bind, Except.bind] at accepted
      split at accepted
      · contradiction
      · rename_i inserted insertedAll
        simp only [pure, Except.pure, Except.ok.injEq, Prod.mk.injEq] at accepted
        exact accepted.1 ▸ apart.insertRows insertedAll
  | update condition values => exact KeysApart.updateRows accepted
  | delete condition => exact apart.deleteRows accepted

end Rows

/-- Two work items share a primary key exactly if they are the same task of a connection. -/
theorem WorkItem.keyCells_eq_iff {left right : WorkItem} :
    keyCells left = keyCells right ↔ left.key = right.key := by
  have cells (item : WorkItem) :
      keyCells item = [.integer item.connectionId, .text item.id] := rfl
  simp [cells, WorkItem.key]

theorem PullRequest.keyCells_eq_iff {left right : PullRequest} :
    keyCells left = keyCells right ↔ left.id = right.id := by
  have cells (pullRequest : PullRequest) : keyCells pullRequest = [.text pullRequest.id] := rfl
  simp [cells]

theorem Deployment.keyCells_eq_iff {left right : Deployment} :
    keyCells left = keyCells right ↔ left.id = right.id := by
  have cells (deployment : Deployment) : keyCells deployment = [.text deployment.id] := rfl
  simp [cells]

theorem DeploymentCommit.keyCells_eq_iff {left right : DeploymentCommit} :
    keyCells left = keyCells right ↔ left.id = right.id := by
  have cells (entry : DeploymentCommit) : keyCells entry = [.text entry.id] := rfl
  simp [cells]

/-- Two records share a primary key exactly if their keys are equal. -/
theorem CycleRecord.keyCells_eq_iff {left right : CycleRecord Moment} :
    keyCells left = keyCells right ↔ left.key = right.key := by
  have cells (record : CycleRecord Moment) : keyCells record =
      [.text record.taskId, .text record.deploymentId, .integer record.connectionId] := rfl
  simp [cells, CycleRecord.key]

/-- A store in which no table has two rows with the same primary key. -/
structure Store.WellKeyed (store : Store) : Prop where
  workItems : KeysApart store.collected.workItems
  pullRequests : KeysApart store.collected.pullRequests
  pullRequestCommits : KeysApart store.collected.pullRequestCommits
  deployments : KeysApart store.collected.deployments
  deploymentCommits : KeysApart store.collected.deploymentCommits
  rangeCommits : KeysApart store.collected.rangeCommits
  projectScopes : KeysApart store.collected.projectScopes
  ledger : store.ledger.WellKeyed

namespace Store

theorem wellKeyed_empty : Store.empty.WellKeyed := by
  constructor <;> exact List.Pairwise.nil

theorem keysApart_ledger_iff {ledger : Ledger} : KeysApart ledger ↔ ledger.WellKeyed := by
  simp only [KeysApart, Ledger.WellKeyed, ne_eq, CycleRecord.keyCells_eq_iff]

/-- An edit keeps a store well keyed. -/
theorem WellKeyed.edit {store edited : Store} {tableName : String} {edit : Edit} {count : Nat}
    (wellKeyed : store.WellKeyed) (accepted : store.edit tableName edit = .ok (edited, count)) :
    edited.WellKeyed := by
  cases edited_of_edit accepted with
  | workItems applied => exact { wellKeyed with workItems := wellKeyed.workItems.applyTo applied }
  | pullRequests applied =>
      exact { wellKeyed with pullRequests := wellKeyed.pullRequests.applyTo applied }
  | pullRequestCommits applied =>
      exact { wellKeyed with pullRequestCommits := wellKeyed.pullRequestCommits.applyTo applied }
  | deployments applied =>
      exact { wellKeyed with deployments := wellKeyed.deployments.applyTo applied }
  | deploymentCommits applied =>
      exact { wellKeyed with deploymentCommits := wellKeyed.deploymentCommits.applyTo applied }
  | rangeCommits applied =>
      exact { wellKeyed with rangeCommits := wellKeyed.rangeCommits.applyTo applied }
  | projectScopes applied =>
      exact { wellKeyed with projectScopes := wellKeyed.projectScopes.applyTo applied }
  | ledger applied =>
      have apart := (keysApart_ledger_iff.mpr wellKeyed.ledger).applyTo applied
      exact { wellKeyed with ledger := keysApart_ledger_iff.mp apart }
  | unknown _ => exact wellKeyed

end Store

end DeliveryCycle
