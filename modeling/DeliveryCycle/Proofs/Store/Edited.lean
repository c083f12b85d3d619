import DeliveryCycle.Store.Edit

/-!
# What an edit makes of a store

An edit that is carried out changes the rows of one table and nothing else. `Store.Edited` has one
case for each table, so that a property of stores is kept by edits as soon as each of its tables
keeps it; an edit of a table that is not there changes nothing.
-/

namespace DeliveryCycle.Store

/-- The stores that an edit of some table, which concerned a number of rows, makes of a store. -/
inductive Edited (edit : Edit) (count : Nat) (store : Store) : Store → Prop
  | workItems {rows : List WorkItem}
      (applied : edit.applyTo store.collected.workItems = .ok (rows, count)) :
      Edited edit count store
        { store with collected := { store.collected with workItems := rows } }
  | pullRequests {rows : List PullRequest}
      (applied : edit.applyTo store.collected.pullRequests = .ok (rows, count)) :
      Edited edit count store
        { store with collected := { store.collected with pullRequests := rows } }
  | pullRequestCommits {rows : List PullRequestCommit}
      (applied : edit.applyTo store.collected.pullRequestCommits = .ok (rows, count)) :
      Edited edit count store
        { store with collected := { store.collected with pullRequestCommits := rows } }
  | deployments {rows : List Deployment}
      (applied : edit.applyTo store.collected.deployments = .ok (rows, count)) :
      Edited edit count store
        { store with collected := { store.collected with deployments := rows } }
  | deploymentCommits {rows : List DeploymentCommit}
      (applied : edit.applyTo store.collected.deploymentCommits = .ok (rows, count)) :
      Edited edit count store
        { store with collected := { store.collected with deploymentCommits := rows } }
  | rangeCommits {rows : List RangeCommit}
      (applied : edit.applyTo store.collected.rangeCommits = .ok (rows, count)) :
      Edited edit count store
        { store with collected := { store.collected with rangeCommits := rows } }
  | projectScopes {rows : List ProjectScope}
      (applied : edit.applyTo store.collected.projectScopes = .ok (rows, count)) :
      Edited edit count store
        { store with collected := { store.collected with projectScopes := rows } }
  | ledger {rows : Ledger} (applied : edit.applyTo store.ledger = .ok (rows, count)) :
      Edited edit count store { store with ledger := rows }
  | unknown (nothing : count = 0) : Edited edit count store store

theorem edited_of_edit {store edited : Store} {tableName : String} {edit : Edit} {count : Nat}
    (accepted : store.edit tableName edit = .ok (edited, count)) :
    Edited edit count store edited := by
  simp only [Store.edit, bind, Except.bind, pure, Except.pure] at accepted
  repeat'
    split at accepted
    · split at accepted
      · contradiction
      · rename_i result applied
        simp only [Except.ok.injEq, Prod.mk.injEq] at accepted
        rcases accepted with ⟨rfl, rfl⟩
        first
        | exact .workItems applied
        | exact .pullRequests applied
        | exact .pullRequestCommits applied
        | exact .deployments applied
        | exact .deploymentCommits applied
        | exact .rangeCommits applied
        | exact .projectScopes applied
        | exact .ledger applied
  simp only [Except.ok.injEq, Prod.mk.injEq] at accepted
  rcases accepted with ⟨rfl, rfl⟩
  exact .unknown rfl

/-- Only an edit of the records changes them. -/
theorem ledger_of_edit {store edited : Store} {tableName : String} {edit : Edit} {count : Nat}
    (upstream : tableName ≠ Schema.cycleRecords.name)
    (accepted : store.edit tableName edit = .ok (edited, count)) :
    edited.ledger = store.ledger := by
  simp only [Store.edit, upstream, if_false, bind, Except.bind, pure, Except.pure] at accepted
  repeat'
    split at accepted
    · split at accepted
      · contradiction
      · simp only [Except.ok.injEq, Prod.mk.injEq] at accepted
        rw [← accepted.1]
  simp only [Except.ok.injEq, Prod.mk.injEq] at accepted
  rw [← accepted.1]

end DeliveryCycle.Store
