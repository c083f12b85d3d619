import DeliveryCycle.Record.Ledger

/-!
# Sessions

A session works on the store in one transaction: it sees its own changes at once, while all others
see what was committed last. Inside the transaction it may open savepoints, one within the other.
What was done since a savepoint is kept when the savepoint is released, and undone when the session
rolls back to it. A session that is closed drops whatever it did not commit.

That a transaction is open before the first savepoint is assumed of the engine. It is what makes the
release of a savepoint show nothing to others, also that of the outermost one. An engine that lets a
savepoint begin the transaction commits when this savepoint is released, and is not described.

A `Statement` is what a session sends to the database. Questions change nothing and are left out.
-/

namespace DeliveryCycle

inductive Statement where
  /-- Opens a savepoint inside the one that was opened last. -/
  | savepoint
  /-- The records of a record's task under other deployments go. -/
  | dropOthers (record : CycleRecord Moment)
  /-- A record takes the place of its primary key, or the end. -/
  | insertOrReplace (record : CycleRecord Moment)
  /-- Gives up the savepoint that was opened last and keeps what was done since. -/
  | release
  /-- Undoes what was done since the savepoint that was opened last, or everything without one. -/
  | rollBack
  | commit
deriving DecidableEq, Repr

structure Session where
  /-- The store as all others see it. -/
  committed : Store
  /-- The store as the session sees it. -/
  current : Store
  /-- The stores that the open savepoints go back to, the one that was opened last first. -/
  savepoints : List Store
deriving Repr

namespace Session

/-- A session at its beginning. -/
def onStore (store : Store) : Session := ⟨store, store, []⟩

def changeLedger (session : Session) (change : Ledger → Ledger) : Session :=
  { session with
    current := { session.current with ledger := change session.current.ledger } }

/-- The session after a statement. -/
def execute (session : Session) : Statement → Session
  | .savepoint => { session with savepoints := session.current :: session.savepoints }
  | .dropOthers record => session.changeLedger (·.dropOthers record)
  | .insertOrReplace record => session.changeLedger (·.insertOrReplace record)
  | .release => { session with savepoints := session.savepoints.tail }
  | .rollBack =>
      { session with
        current := session.savepoints.headD session.committed
        savepoints := session.savepoints.tail }
  | .commit => ⟨session.current, session.current, []⟩

def executeAll (session : Session) (statements : List Statement) : Session :=
  statements.foldl execute session

/-- The store that a session leaves when it is closed. -/
def close (session : Session) : Store := session.committed

@[simp] theorem executeAll_nil (session : Session) : session.executeAll [] = session := rfl

@[simp] theorem executeAll_cons (session : Session) (statement : Statement)
    (rest : List Statement) :
    session.executeAll (statement :: rest) = (session.execute statement).executeAll rest := rfl

@[simp] theorem executeAll_append (session : Session) (first second : List Statement) :
    session.executeAll (first ++ second) = (session.executeAll first).executeAll second :=
  List.foldl_append

/-- Only a commit shows anything to others. -/
theorem execute_committed (session : Session) {statement : Statement}
    (uncommitted : statement ≠ .commit) :
    (session.execute statement).committed = session.committed := by
  cases statement with
  | commit => exact absurd rfl uncommitted
  | savepoint | dropOthers | insertOrReplace | release | rollBack => rfl

theorem executeAll_committed (session : Session) {statements : List Statement}
    (uncommitted : .commit ∉ statements) :
    (session.executeAll statements).committed = session.committed := by
  induction statements generalizing session with
  | nil => rfl
  | cons statement rest ih =>
      rcases List.ne_and_not_mem_of_not_mem_cons uncommitted with ⟨differs, absent⟩
      rw [executeAll_cons, ih _ absent, execute_committed session differs.symm]

end Session

end DeliveryCycle
