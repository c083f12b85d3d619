import DeliveryCycle.Proofs.Matching.Shipping
import DeliveryCycle.Proofs.Store.PrimaryKey

/-!
# Deployments that come in later

Collectors put in deployments, their entries and the ranges between them from time to time. The
range that counts for an entry depends on the entry before it, and as long as that entry is missing
another range counts. So an entry that is named by an older one must not come in later; then the
range of each older entry stays the same, by `previousCommit_eq`, and what ships a commit goes on to
ship it, by `Ships.extend`. A deployment that was found for a merge commit is only given up for one
that is better.
-/

namespace DeliveryCycle

namespace Collected

/-- Further deployments, entries and ranges came in, and no new entry is the one that an older entry
names as the one before. -/
structure ExtendedBy (collected extended : Collected) : Prop where
  deployments : collected.deployments ⊆ extended.deployments
  deploymentCommits : collected.deploymentCommits ⊆ extended.deploymentCommits
  rangeCommits : collected.rangeCommits ⊆ extended.rangeCommits
  unnamed : ∀ entry ∈ extended.deploymentCommits, entry ∉ collected.deploymentCommits →
    ∀ older ∈ collected.deploymentCommits, older.previousId ≠ entry.id

variable {collected extended : Collected} {environment mergeCommit : Option String}
variable {commit : String} {entry : DeploymentCommit} {deployment : Deployment}

/-- The commit of the deployment before an older entry stays the same. -/
theorem ExtendedBy.previousCommit_eq (extension : collected.ExtendedBy extended)
    (apart : KeysApart extended.deploymentCommits) (mem : entry ∈ collected.deploymentCommits) :
    extended.previousCommit entry = collected.previousCommit entry := by
  have sameEntry : (extended.deploymentCommits.find? fun other => other.id = entry.previousId) =
      collected.deploymentCommits.find? fun other => other.id = entry.previousId := by
    cases found : extended.deploymentCommits.find? fun other => other.id = entry.previousId with
    | none =>
        symm
        apply List.find?_eq_none.mpr
        intro other otherMem
        exact List.find?_eq_none.mp found other (extension.deploymentCommits otherMem)
    | some previous =>
        have previousMem := List.mem_of_find?_eq_some found
        have named : previous.id = entry.previousId := by simpa using List.find?_some found
        have older : previous ∈ collected.deploymentCommits := by
          by_contra new
          exact extension.unnamed previous previousMem new entry mem named.symm
        have isSome : (collected.deploymentCommits.find? fun other =>
            other.id = entry.previousId).isSome :=
          List.find?_isSome.mpr ⟨previous, older, by simpa using named⟩
        rcases Option.isSome_iff_exists.mp isSome with ⟨other, otherFound⟩
        have otherMem := extension.deploymentCommits (List.mem_of_find?_eq_some otherFound)
        have otherNamed : other.id = entry.previousId := by simpa using List.find?_some otherFound
        have sameKey : keyCells other = keyCells previous :=
          DeploymentCommit.keyCells_eq_iff.mpr (otherNamed.trans named.symm)
        rw [otherFound, apart.eq_of_keyCells_eq otherMem previousMem sameKey]
  unfold previousCommit
  rw [sameEntry]

/-- What ships a commit goes on to ship it. -/
theorem Ships.extend (ships : collected.Ships environment commit entry deployment)
    (extension : collected.ExtendedBy extended) (apart : KeysApart extended.deploymentCommits) :
    extended.Ships environment commit entry deployment := by
  have inRange : extended.rangeHolds entry commit = true := by
    rcases rangeHolds_iff.mp ships.inRange with ⟨range, mem, new, old, holds⟩
    apply rangeHolds_iff.mpr
    refine ⟨range, extension.rangeCommits mem, new, ?_, holds⟩
    rw [extension.previousCommit_eq apart ships.entryMem]
    exact old
  exact { ships with
    entryMem := extension.deploymentCommits ships.entryMem
    deploymentMem := extension.deployments ships.deploymentMem
    inRange := inRange }

/-- The earliest deployment that ships a commit finished no later when further rows came in. -/
theorem ExtendedBy.exists_earliest_le (extension : collected.ExtendedBy extended)
    (apart : KeysApart extended.deploymentCommits) {earliest : String × Moment}
    (head : ((⟨collected, commit⟩ : CommitSubject).shipping environment).head? = some earliest) :
    ∃ now, ((⟨extended, commit⟩ : CommitSubject).shipping environment).head? = some now ∧
      now.2.ticks ≤ earliest.2.ticks := by
  have mem : earliest ∈ (⟨collected, commit⟩ : CommitSubject).shipping environment :=
    List.mem_of_head? head
  rcases CommitSubject.mem_shipping_iff.mp mem with ⟨entry, deployment, ships, shown⟩
  apply CommitSubject.exists_earliest_le
  exact CommitSubject.mem_shipping_iff.mpr ⟨entry, deployment, ships.extend extension apart, shown⟩

/-- A deployment that was found for a merge commit ships it to production. -/
def ShipsToProduction (collected : Collected) (mergeCommit : Option String)
    (deployment : MatchedDeployment Moment) : Prop :=
  ∃ commit entry row, mergeCommit = some commit ∧
    collected.Ships (some productionEnvironment) commit entry row ∧
      row.id = deployment.deploymentId ∧ row.finishedAt = some deployment.finishedAt

/-- The name of the strategy tells whether a deployment ships the merge commit to production. -/
theorem matchedBy_eq_inProduction_iff {found : MatchedDeployment Moment}
    (matched : matchDeployment deploymentStrategies collected mergeCommit = some found) :
    found.matchedBy = inProduction.name ↔ collected.ShipsToProduction mergeCommit found := by
  rcases matchDeployment_cases matched with
    ⟨commit, earliest, rfl, _, ⟨head, rfl⟩ | ⟨noneListed, _, rfl⟩⟩
  · have mem := List.mem_of_head? head
    rcases CommitSubject.mem_shipping_iff.mp mem with ⟨entry, row, ships, sameId, finished⟩
    exact iff_of_true rfl ⟨commit, entry, row, rfl, ships, sameId, finished⟩
  · apply iff_of_false
    · simp [MatchedDeployment.ofFound, inProduction, inAnyEnvironment]
    · rintro ⟨_, entry, row, same, ships, sameId, finished⟩
      cases same
      have mem : earliest ∈ (⟨collected, commit⟩ : CommitSubject).shipping
          (some productionEnvironment) :=
        CommitSubject.mem_shipping_iff.mpr ⟨entry, row, ships, sameId, finished⟩
      rw [noneListed] at mem
      contradiction

end Collected

/-- A deployment that was found for a merge commit is only given up for a better one. When further
rows come in, a deployment is found again. One to production is followed by one to production that
finished no later, and any other one by one to production or by one that finished no later. -/
theorem found_deployment_improves {collected extended : Collected} {mergeCommit : Option String}
    {before : MatchedDeployment Moment} (apart : KeysApart extended.deploymentCommits)
    (extension : collected.ExtendedBy extended)
    (found : matchDeployment deploymentStrategies collected mergeCommit = some before) :
    ∃ after, matchDeployment deploymentStrategies extended mergeCommit = some after ∧
      (collected.ShipsToProduction mergeCommit before →
        extended.ShipsToProduction mergeCommit after ∧
          after.finishedAt.ticks ≤ before.finishedAt.ticks) ∧
      (¬collected.ShipsToProduction mergeCommit before →
        extended.ShipsToProduction mergeCommit after ∨
          after.finishedAt.ticks ≤ before.finishedAt.ticks) := by
  rcases matchDeployment_cases found with
    ⟨commit, earliest, rfl, given, ⟨head, rfl⟩ | ⟨noneListed, head, rfl⟩⟩
  · rcases extension.exists_earliest_le apart head with ⟨now, nowHead, noLater⟩
    have matched : matchDeployment deploymentStrategies extended (some commit) =
        some (.ofFound inProduction.name now) := by
      rw [matchDeployment_eq given, nowHead]
      rfl
    have toProduction := (Collected.matchedBy_eq_inProduction_iff matched).mp rfl
    exact ⟨_, matched, fun _ => ⟨toProduction, noLater⟩, fun _ => .inl toProduction⟩
  · have elsewhere : ¬collected.ShipsToProduction (some commit)
        (.ofFound inAnyEnvironment.name earliest) := by
      intro toProduction
      have named := (Collected.matchedBy_eq_inProduction_iff found).mpr toProduction
      have differ : inAnyEnvironment.name ≠ inProduction.name := by decide
      exact differ named
    rcases extension.exists_earliest_le apart head with ⟨now, nowHead, noLater⟩
    cases toProduction : ((⟨extended, commit⟩ : CommitSubject).shipping
        (some productionEnvironment)).head? with
    | some better =>
        have matched : matchDeployment deploymentStrategies extended (some commit) =
            some (.ofFound inProduction.name better) := by
          rw [matchDeployment_eq given, toProduction]
          rfl
        have ships := (Collected.matchedBy_eq_inProduction_iff matched).mp rfl
        exact ⟨_, matched, fun was => absurd was elsewhere, fun _ => .inl ships⟩
    | none =>
        have matched : matchDeployment deploymentStrategies extended (some commit) =
            some (.ofFound inAnyEnvironment.name now) := by
          rw [matchDeployment_eq given, toProduction, nowHead]
          rfl
        exact ⟨_, matched, fun was => absurd was elsewhere, fun _ => .inr noLater⟩

/-- A merge commit that was only deployed to staging. -/
def stagedRows : Collected :=
  { Collected.empty with
    deployments := [⟨"staging", "", successResult, "STAGING", some ⟨2⟩⟩]
    deploymentCommits :=
      [⟨"first", "earlier", "a", "STAGING", successResult, ""⟩,
        ⟨"second", "staging", "b", "STAGING", successResult, "first"⟩]
    rangeCommits := [⟨"b", "a", "merge", 0⟩] }

/-- The same merge commit after a release to production. -/
def releasedRows : Collected :=
  { stagedRows with
    deployments := stagedRows.deployments ++
      [⟨"release", "", successResult, productionEnvironment, some ⟨5⟩⟩]
    deploymentCommits := stagedRows.deploymentCommits ++
      [⟨"third", "release", "c", productionEnvironment, successResult, "first"⟩]
    rangeCommits := stagedRows.rangeCommits ++ [⟨"c", "a", "merge", 1⟩] }

/-- The deployment to staging is given up for the release. -/
theorem releasedRows_improve_stagedRows :
    matchDeployment deploymentStrategies stagedRows (some "merge") =
        some (.ofFound inAnyEnvironment.name ("staging", ⟨2⟩)) ∧
      ∃ after, matchDeployment deploymentStrategies releasedRows (some "merge") = some after ∧
        (releasedRows.ShipsToProduction (some "merge") after ∨ after.finishedAt.ticks ≤ 2) := by
  have found : matchDeployment deploymentStrategies stagedRows (some "merge") =
      some (.ofFound inAnyEnvironment.name ("staging", ⟨2⟩)) := by cbv
  have apart : KeysApart releasedRows.deploymentCommits := keysDistinct_eq_true_iff.mp (by decide)
  have extension : stagedRows.ExtendedBy releasedRows :=
    ⟨by decide, by decide, by decide, by decide⟩
  have elsewhere : ¬stagedRows.ShipsToProduction (some "merge")
      (.ofFound inAnyEnvironment.name ("staging", ⟨2⟩)) := by
    rw [← Collected.matchedBy_eq_inProduction_iff found]
    decide
  rcases found_deployment_improves apart extension found with ⟨after, matched, _, other⟩
  exact ⟨found, after, matched, other elsewhere⟩

end DeliveryCycle
