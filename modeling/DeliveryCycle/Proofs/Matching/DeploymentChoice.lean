import DeliveryCycle.Proofs.Matching.Growth

/-!
# Which deployment is found

`Collected.ShipsThrough` says in terms of the rows alone when a deployment ships a commit through
one of its entries: the entry names one before it, and the commit is listed between the commit of
the entry before and its own. If no two entries share an identifier, this is what the lookup asks
for, by `ships_iff`. So a deployment is found exactly if one ships the commit, and it is the
earliest one to production, or the earliest of all if none goes there.
-/

namespace DeliveryCycle

namespace Collected

/-- A commit at which the range of an entry begins: the one of the entry that it names as the one
before, or the empty text if the entry of this name is not there. -/
def RangeBegins (collected : Collected) (entry : DeploymentCommit) (commit : String) : Prop :=
  (∃ previous ∈ collected.deploymentCommits,
      previous.id = entry.previousId ∧ previous.commit = commit) ∨
    (∀ other ∈ collected.deploymentCommits, other.id ≠ entry.previousId) ∧ commit = ""

/-- A deployment that succeeded and finished ships a commit through one of its entries. -/
structure ShipsThrough (collected : Collected) (commit : String) (entry : DeploymentCommit)
    (deployment : Deployment) : Prop where
  entryMem : entry ∈ collected.deploymentCommits
  deploymentMem : deployment ∈ collected.deployments
  sameDeployment : entry.deploymentId = deployment.id
  hasPrevious : entry.previousId ≠ ""
  succeeded : deployment.result = "SUCCESS"
  finished : deployment.finishedAt ≠ none
  inRange : ∃ range ∈ collected.rangeCommits, range.newCommit = entry.commit ∧
    collected.RangeBegins entry range.oldCommit ∧ range.commit = commit

/-- A deployment that was found is the earliest of those that ship a commit through an entry that
meets a condition. -/
structure IsEarliest (collected : Collected) (commit : String)
    (condition : DeploymentCommit → Prop) (found : MatchedDeployment Moment) : Prop where
  ships : ∃ entry deployment, condition entry ∧ collected.ShipsThrough commit entry deployment ∧
    deployment.id = found.deploymentId ∧ deployment.finishedAt = some found.finishedAt
  earliest : ∀ entry deployment finishedAt, condition entry →
    collected.ShipsThrough commit entry deployment → deployment.finishedAt = some finishedAt →
      found.finishedAt.ticks ≤ finishedAt.ticks

variable {collected : Collected} {commit : String} {environment : Option String}
variable {entry : DeploymentCommit} {deployment : Deployment}

/-- The commit before an entry is the one at which its range begins. -/
theorem previousCommit_eq_iff (apart : KeysApart collected.deploymentCommits) :
    collected.previousCommit entry = commit ↔ collected.RangeBegins entry commit := by
  unfold previousCommit RangeBegins
  cases found : collected.deploymentCommits.find? fun other => other.id = entry.previousId with
  | none =>
      have absent : ∀ other ∈ collected.deploymentCommits, other.id ≠ entry.previousId := by
        simpa using found
      constructor
      · intro empty
        exact .inr ⟨absent, empty.symm⟩
      · rintro (⟨previous, mem, named, _⟩ | ⟨_, empty⟩)
        · exact absurd named (absent previous mem)
        · exact empty.symm
  | some previous =>
      have mem := List.mem_of_find?_eq_some found
      have named : previous.id = entry.previousId := by simpa using List.find?_some found
      constructor
      · intro same
        exact .inl ⟨previous, mem, named, same⟩
      · rintro (⟨other, otherMem, otherNamed, same⟩ | ⟨absent, _⟩)
        · have sameKey : keyCells previous = keyCells other :=
            DeploymentCommit.keyCells_eq_iff.mpr (named.trans otherNamed.symm)
          rw [apart.eq_of_keyCells_eq mem otherMem sameKey]
          exact same
        · exact absurd named (absent previous mem)

/-- The lookup asks for what ships the commit. -/
theorem ships_iff (apart : KeysApart collected.deploymentCommits) :
    collected.Ships environment commit entry deployment ∧ deployment.finishedAt ≠ none ↔
      collected.ShipsThrough commit entry deployment ∧
        (environment = none ∨ environment = some entry.environment) := by
  constructor
  · rintro ⟨ships, finished⟩
    rcases rangeHolds_iff.mp ships.inRange with ⟨range, mem, new, old, holds⟩
    have begins := (previousCommit_eq_iff apart).mp old.symm
    exact ⟨⟨ships.entryMem, ships.deploymentMem, ships.sameDeployment.symm, ships.hasPrevious,
      ships.succeeded, finished, range, mem, new, begins, holds⟩, ships.wanted⟩
  · rintro ⟨ships, wanted⟩
    rcases ships.inRange with ⟨range, mem, new, begins, holds⟩
    have old := ((previousCommit_eq_iff apart).mpr begins).symm
    exact ⟨⟨ships.entryMem, ships.deploymentMem, ships.sameDeployment.symm, ships.succeeded,
      ships.hasPrevious, wanted, rangeHolds_iff.mpr ⟨range, mem, new, old, holds⟩⟩,
      ships.finished⟩

theorem mem_shipping_iff_shipsThrough (apart : KeysApart collected.deploymentCommits)
    {found : String × Moment} :
    found ∈ CommitSubject.shipping ⟨collected, commit⟩ environment ↔
      ∃ entry deployment, (environment = none ∨ environment = some entry.environment) ∧
        collected.ShipsThrough commit entry deployment ∧
          deployment.id = found.1 ∧ deployment.finishedAt = some found.2 := by
  rw [CommitSubject.mem_shipping_iff]
  constructor
  · rintro ⟨entry, deployment, ships, sameId, finished⟩
    have isFinished : deployment.finishedAt ≠ none := by simp [finished]
    rcases (ships_iff apart).mp ⟨ships, isFinished⟩ with ⟨through, wanted⟩
    exact ⟨entry, deployment, wanted, through, sameId, finished⟩
  · rintro ⟨entry, deployment, wanted, through, sameId, finished⟩
    exact ⟨entry, deployment, ((ships_iff apart).mpr ⟨through, wanted⟩).1, sameId, finished⟩

/-- Nothing is listed exactly if nothing ships the commit. -/
theorem shipping_eq_nil_iff (apart : KeysApart collected.deploymentCommits) :
    CommitSubject.shipping ⟨collected, commit⟩ environment = [] ↔
      ∀ entry deployment, (environment = none ∨ environment = some entry.environment) →
        ¬collected.ShipsThrough commit entry deployment := by
  simp only [List.eq_nil_iff_forall_not_mem, mem_shipping_iff_shipsThrough apart]
  constructor
  · intro nothing entry deployment wanted through
    rcases Option.ne_none_iff_exists'.mp through.finished with ⟨finishedAt, finished⟩
    exact nothing (deployment.id, finishedAt) ⟨entry, deployment, wanted, through, rfl, finished⟩
  · rintro nothing found ⟨entry, deployment, wanted, through, _⟩
    exact nothing entry deployment wanted through

/-- The first deployment that is listed is the earliest one. -/
theorem isEarliest_of_head? (apart : KeysApart collected.deploymentCommits)
    {found : String × Moment}
    (head : (CommitSubject.shipping ⟨collected, commit⟩ environment).head? = some found)
    (name : String) :
    collected.IsEarliest commit
      (fun entry => environment = none ∨ environment = some entry.environment)
      (.ofFound name found) where
  ships := (mem_shipping_iff_shipsThrough apart).mp (List.mem_of_head? head)
  earliest := by
    intro entry deployment finishedAt wanted through finished
    have listed : (deployment.id, finishedAt) ∈
        CommitSubject.shipping ⟨collected, commit⟩ environment :=
      (mem_shipping_iff_shipsThrough apart).mpr ⟨entry, deployment, wanted, through, rfl, finished⟩
    rcases CommitSubject.exists_earliest_le listed with ⟨first, firstHead, noLater⟩
    rw [head] at firstHead
    cases firstHead
    exact noLater

theorem IsEarliest.congr {condition other : DeploymentCommit → Prop}
    {found : MatchedDeployment Moment} (earliest : collected.IsEarliest commit condition found)
    (same : ∀ entry, condition entry ↔ other entry) :
    collected.IsEarliest commit other found := by
  have equal : condition = other := funext fun entry => propext (same entry)
  exact equal ▸ earliest

/-- No deployment is found exactly if none ships the commit. -/
theorem matchDeployment_eq_none_iff (apart : KeysApart collected.deploymentCommits)
    (given : commit ≠ "") :
    matchDeployment deploymentStrategies collected (some commit) = none ↔
      ∀ entry deployment, ¬collected.ShipsThrough commit entry deployment := by
  rw [matchDeployment_eq given, Option.or_eq_none_iff, Option.map_eq_none_iff,
    Option.map_eq_none_iff, List.head?_eq_none_iff, List.head?_eq_none_iff,
    shipping_eq_nil_iff apart, shipping_eq_nil_iff apart]
  constructor
  · rintro ⟨_, nowhere⟩ entry deployment
    exact nowhere entry deployment (.inl rfl)
  · intro nowhere
    exact ⟨fun entry deployment _ => nowhere entry deployment,
      fun entry deployment _ => nowhere entry deployment⟩

/-- If a deployment ships the commit to production, the earliest such one is found. -/
theorem exists_earliest_toProduction (apart : KeysApart collected.deploymentCommits)
    (given : commit ≠ "")
    (toProduction : ∃ entry deployment, collected.ShipsThrough commit entry deployment ∧
      entry.environment = "PRODUCTION") :
    ∃ found, matchDeployment deploymentStrategies collected (some commit) = some found ∧
      found.matchedBy = "deployment_in_production" ∧
        collected.IsEarliest commit (fun entry => entry.environment = "PRODUCTION") found := by
  rcases toProduction with ⟨entry, deployment, through, isProduction⟩
  have listed : CommitSubject.shipping ⟨collected, commit⟩ (some productionEnvironment) ≠ [] := by
    rw [ne_eq, shipping_eq_nil_iff apart]
    intro nothing
    exact nothing entry deployment (.inr (congrArg some isProduction.symm)) through
  rcases Option.ne_none_iff_exists'.mp (mt List.head?_eq_none_iff.mp listed) with ⟨first, head⟩
  refine ⟨.ofFound inProduction.name first, ?_, rfl, ?_⟩
  · rw [matchDeployment_eq given, head]
    rfl
  · apply (isEarliest_of_head? apart head inProduction.name).congr
    intro entry
    simp [productionEnvironment, eq_comm]

/-- If no deployment ships the commit to production, the earliest of all is found. -/
theorem isEarliest_elsewhere (apart : KeysApart collected.deploymentCommits)
    (notToProduction : ∀ entry deployment, collected.ShipsThrough commit entry deployment →
      entry.environment ≠ "PRODUCTION")
    {found : MatchedDeployment Moment}
    (matched : matchDeployment deploymentStrategies collected (some commit) = some found) :
    found.matchedBy = "deployment_in_any_environment" ∧
      collected.IsEarliest commit (fun _ => True) found := by
  rcases matchDeployment_cases matched with
    ⟨_, first, same, _, ⟨head, rfl⟩ | ⟨_, head, rfl⟩⟩ <;> cases same
  · rcases (mem_shipping_iff_shipsThrough apart).mp (List.mem_of_head? head) with
      ⟨entry, deployment, wanted | wanted, through, _⟩
    · contradiction
    · exact absurd (Option.some.inj wanted).symm (notToProduction entry deployment through)
  · refine ⟨rfl, (isEarliest_of_head? apart head inAnyEnvironment.name).congr ?_⟩
    simp

/-- The time of a deployment that was found is the one at which it finished. -/
theorem finishedAt_of_matchDeployment (apart : KeysApart collected.deployments)
    {mergeCommit : Option String} {found : MatchedDeployment Moment}
    (matched : matchDeployment deploymentStrategies collected mergeCommit = some found)
    (mem : deployment ∈ collected.deployments) (sameId : deployment.id = found.deploymentId) :
    deployment.finishedAt = some found.finishedAt := by
  have ofListed {environment : Option String} {commit name : String} {first : String × Moment}
      (head : (CommitSubject.shipping ⟨collected, commit⟩ environment).head? = some first)
      (sameId : deployment.id = (MatchedDeployment.ofFound name first).deploymentId) :
      deployment.finishedAt = some first.2 := by
    rcases CommitSubject.mem_shipping_iff.mp (List.mem_of_head? head) with
      ⟨_, shipped, ships, shippedId, finished⟩
    have sameKey : keyCells deployment = keyCells shipped :=
      Deployment.keyCells_eq_iff.mpr (sameId.trans shippedId.symm)
    rw [apart.eq_of_keyCells_eq mem ships.deploymentMem sameKey]
    exact finished
  rcases matchDeployment_cases matched with
    ⟨_, first, _, _, ⟨head, rfl⟩ | ⟨_, head, rfl⟩⟩
  · exact ofListed head sameId
  · exact ofListed head sameId

end Collected

/-- Which deployment is found for a merge commit. None is found exactly if none ships it, or if no
commit is given. If one ships it through an entry about production, an earliest one of these is
found, and otherwise an earliest one of all. The strategy is named, and the time is the one at which
the deployment that was found finished. -/
theorem earliest_shipping_deployment_is_found {collected : Collected}
    (entriesApart : KeysApart collected.deploymentCommits)
    (deploymentsApart : KeysApart collected.deployments) :
    let resolved (mergeCommit : Option String) :=
      matchDeployment deploymentStrategies collected mergeCommit
    resolved none = none ∧ resolved (some "") = none ∧
      ∀ commit, commit ≠ "" →
        (resolved (some commit) = none ↔
          ∀ entry deployment, ¬collected.ShipsThrough commit entry deployment) ∧
        ((∃ entry deployment, collected.ShipsThrough commit entry deployment ∧
            entry.environment = "PRODUCTION") →
          ∃ found, resolved (some commit) = some found ∧
            found.matchedBy = "deployment_in_production" ∧
            collected.IsEarliest commit (fun entry => entry.environment = "PRODUCTION") found) ∧
        ((∀ entry deployment, collected.ShipsThrough commit entry deployment →
            entry.environment ≠ "PRODUCTION") →
          ∀ found, resolved (some commit) = some found →
            found.matchedBy = "deployment_in_any_environment" ∧
            collected.IsEarliest commit (fun _ => True) found) ∧
        ∀ found, resolved (some commit) = some found →
          ∀ deployment ∈ collected.deployments, deployment.id = found.deploymentId →
            deployment.finishedAt = some found.finishedAt := by
  intro resolved
  refine ⟨rfl, rfl, fun commit given => ⟨?_, ?_, ?_, ?_⟩⟩
  · exact Collected.matchDeployment_eq_none_iff entriesApart given
  · exact Collected.exists_earliest_toProduction entriesApart given
  · exact fun notToProduction found matched =>
      Collected.isEarliest_elsewhere entriesApart notToProduction matched
  · exact fun found matched deployment mem sameId =>
      Collected.finishedAt_of_matchDeployment deploymentsApart matched mem sameId

/-- The release is found, although the deployment to staging finished earlier. -/
theorem release_is_found_in_releasedRows :
    KeysApart releasedRows.deploymentCommits ∧ KeysApart releasedRows.deployments ∧
      ∃ found, matchDeployment deploymentStrategies releasedRows (some "merge") = some found ∧
        found.matchedBy = "deployment_in_production" ∧
          releasedRows.IsEarliest "merge" (fun entry => entry.environment = "PRODUCTION") found := by
  have entriesApart : KeysApart releasedRows.deploymentCommits :=
    keysDistinct_eq_true_iff.mp (by decide)
  have deploymentsApart : KeysApart releasedRows.deployments :=
    keysDistinct_eq_true_iff.mp (by decide)
  refine ⟨entriesApart, deploymentsApart, ?_⟩
  rcases earliest_shipping_deployment_is_found entriesApart deploymentsApart with ⟨_, _, given⟩
  rcases given "merge" (by decide) with ⟨_, toProduction, _⟩
  apply toProduction
  refine ⟨⟨"third", "release", "c", productionEnvironment, successResult, "first"⟩,
    ⟨"release", "", successResult, productionEnvironment, some ⟨5⟩⟩, ?_, rfl⟩
  constructor
  case inRange =>
    exact ⟨⟨"c", "a", "merge", 1⟩, by decide, rfl, .inl ⟨⟨"first", "earlier", "a", "STAGING",
      successResult, ""⟩, by decide, rfl, rfl⟩, rfl⟩
  all_goals decide

end DeliveryCycle
