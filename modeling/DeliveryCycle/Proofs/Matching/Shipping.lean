import DeliveryCycle.Matching.DeploymentMatch
import DeliveryCycle.Proofs.Store.RowOrder
import Mathlib

/-!
# Deployments that ship a commit

`Collected.Ships` says when a deployment ships a commit through one of its entries. The lookup joins
entries, ranges and deployments, and `mem_shipping_iff` says that what it lists are exactly these
deployments. They are listed by the time at which they finished, so that the first one finished no
later than any other: `exists_earliest_le`.
-/

namespace DeliveryCycle

namespace Collected

variable {collected : Collected} {commit : String} {entry : DeploymentCommit}

/-- A commit is one of those between the commit of a deployment and the one before. -/
theorem rangeHolds_iff : collected.rangeHolds entry commit = true ↔
    ∃ range ∈ collected.rangeCommits, range.newCommit = entry.commit ∧
      range.oldCommit = collected.previousCommit entry ∧ range.commit = commit := by
  simp [rangeHolds, and_assoc]

/-- A successful deployment ships a commit through an entry: the commit lies in the range of the
entry, which names one before it and is about the wanted environment, if one is wanted. -/
structure Ships (collected : Collected) (environment : Option String) (commit : String)
    (entry : DeploymentCommit) (deployment : Deployment) : Prop where
  entryMem : entry ∈ collected.deploymentCommits
  deploymentMem : deployment ∈ collected.deployments
  sameDeployment : deployment.id = entry.deploymentId
  succeeded : deployment.result = successResult
  hasPrevious : entry.previousId ≠ ""
  wanted : environment = none ∨ environment = some entry.environment
  inRange : collected.rangeHolds entry commit = true

end Collected

namespace CommitSubject

variable {subject : CommitSubject} {environment : Option String} {found : String × Moment}

/-- The lookup finds the deployments that ship the commit and finished. -/
theorem mem_shipping_iff : found ∈ subject.shipping environment ↔
    ∃ entry deployment,
      subject.collected.Ships environment subject.mergeCommit entry deployment ∧
        deployment.id = found.1 ∧ deployment.finishedAt = some found.2 := by
  rcases found with ⟨id, finishedAt⟩
  simp only [shipping, List.mem_mergeSort, List.mem_flatMap, List.mem_filter,
    Collected.finished, List.mem_filterMap]
  constructor
  · rintro ⟨entry, ⟨entryMem, suitable⟩, deployment, deploymentMem, shown⟩
    split at shown
    · rename_i shipped
      rcases Option.map_eq_some_iff.mp shown with ⟨_, finished, same⟩
      rcases Prod.mk.inj same with ⟨rfl, rfl⟩
      simp only [Bool.and_eq_true, decide_eq_true_eq, Bool.or_eq_true,
        Option.isNone_iff_eq_none] at suitable shipped
      rcases suitable with ⟨⟨hasPrevious, wanted⟩, inRange⟩
      exact ⟨entry, deployment,
        ⟨entryMem, deploymentMem, shipped.1, shipped.2, hasPrevious, wanted, inRange⟩, rfl,
        finished⟩
    · contradiction
  · rintro ⟨entry, deployment, ships, rfl, finished⟩
    refine ⟨entry, ⟨ships.entryMem, ?_⟩, deployment, ships.deploymentMem, ?_⟩
    · simp [ships.hasPrevious, ships.inRange, ships.wanted]
    · simp [ships.sameDeployment, ships.succeeded, finished]

/-- If anything ships the commit, the first one that is found finished no later. -/
theorem exists_earliest_le (mem : found ∈ subject.shipping environment) :
    ∃ earliest, (subject.shipping environment).head? = some earliest ∧
      earliest.2.ticks ≤ found.2.ticks := by
  cases head : (subject.shipping environment).head? with
  | none => exact absurd (List.head?_eq_none_iff.mp head) (List.ne_nil_of_mem mem)
  | some earliest =>
      refine ⟨earliest, rfl, ?_⟩
      unfold shipping at head mem
      have noLater := le_of_head?_mergeSort head (List.mem_mergeSort.mp mem)
      exact noLater

end CommitSubject

/-- The deployment that a strategy found, with the name of the strategy. -/
def MatchedDeployment.ofFound (name : String) (found : String × Moment) :
    MatchedDeployment Moment :=
  ⟨found.1, found.2, name⟩

/-- The earliest deployment to production is taken, and the earliest of all if there is none. -/
theorem matchDeployment_eq {collected : Collected} {commit : String} (given : commit ≠ "") :
    let subject : CommitSubject := ⟨collected, commit⟩
    matchDeployment deploymentStrategies collected (some commit) =
      (((subject.shipping (some productionEnvironment)).head?.map
          (MatchedDeployment.ofFound inProduction.name)).or
        ((subject.shipping none).head?.map
          (MatchedDeployment.ofFound inAnyEnvironment.name))) := by
  intro subject
  simp only [matchDeployment, given, if_false, Strategy.firstMatch, deploymentStrategies,
    List.findSome?_cons, List.findSome?_nil, Strategy.best?, inProduction, inAnyEnvironment,
    Option.bind_some]
  cases (subject.shipping (some productionEnvironment)).head? with
  | some deployment => rfl
  | none => cases (subject.shipping none).head? <;> rfl

/-- A deployment that was found is the earliest one to production, or the earliest of all if nothing
ships the commit to production. -/
theorem matchDeployment_cases {collected : Collected} {mergeCommit : Option String}
    {deployment : MatchedDeployment Moment}
    (found : matchDeployment deploymentStrategies collected mergeCommit = some deployment) :
    ∃ commit earliest, mergeCommit = some commit ∧ commit ≠ "" ∧
      let subject : CommitSubject := ⟨collected, commit⟩
      ((subject.shipping (some productionEnvironment)).head? = some earliest ∧
          deployment = .ofFound inProduction.name earliest) ∨
        (subject.shipping (some productionEnvironment) = [] ∧
          (subject.shipping none).head? = some earliest ∧
            deployment = .ofFound inAnyEnvironment.name earliest) := by
  cases mergeCommit with
  | none => contradiction
  | some commit =>
      by_cases given : commit = ""
      · simp [matchDeployment, given] at found
      · rw [matchDeployment_eq given] at found
        rcases Option.or_eq_some_iff.mp found with toProduction | ⟨toNone, toAny⟩
        · rcases Option.map_eq_some_iff.mp toProduction with ⟨earliest, head, rfl⟩
          exact ⟨commit, earliest, rfl, given, .inl ⟨head, rfl⟩⟩
        · rcases Option.map_eq_some_iff.mp toAny with ⟨earliest, head, rfl⟩
          have noneListed := List.head?_eq_none_iff.mp (Option.map_eq_none_iff.mp toNone)
          exact ⟨commit, earliest, rfl, given, .inr ⟨noneListed, head, rfl⟩⟩

end DeliveryCycle
