import DeliveryCycle.Proofs.Matching.Agreement
import DeliveryCycle.Proofs.Number.Truncation
import DeliveryCycle.Proofs.Record.LastWrite
import DeliveryCycle.Proofs.Store.Storable

/-!
# Records that are accepted

If the collected rows can be stored, so can every record that a run derives from them: its moments
are those of rows, and its metrics count the minutes between two dates. So an upsert of the record
is carried out, by `upsert_draft`.
-/

namespace DeliveryCycle

namespace Moment

theorem fitsColumn_minutesTo {start finish : Moment} (startDate : start.IsDate)
    (finishDate : finish.IsDate) : fitsColumn (start.minutesTo finish) = true := by
  have lastTick : Time.endOfDates = 315537897600000000 := by decide
  have limit : Number.twoPow 63 = 9223372036854775808 := by decide
  have minuteSize : Time.ticksPerMinute.log2 = 25 := by decide
  unfold IsDate at startDate finishDate
  rw [lastTick] at startDate finishDate
  -- Dates are less than `2 ^ 60` ticks apart, so the quotient in minutes is below `2 ^ 52`.
  have apart : ((finish.ticks : Int) - start.ticks).natAbs < 2 ^ 60 := by omega
  have small : ((finish.ticks : Int) - start.ticks).natAbs.log2 ≤
      Time.ticksPerMinute.log2 + 52 := by
    rcases Nat.eq_zero_or_pos ((finish.ticks : Int) - start.ticks).natAbs with zero | positive
    · simp [zero]
    · have below := (Nat.log2_lt (Nat.pos_iff_ne_zero.mp positive)).mpr apart
      rw [minuteSize]
      omega
  have close := Binary64.natAbs_truncate_ofRatio_le small
  unfold minutesTo Time.wholeMinutes fitsColumn
  rw [limit]
  simp only [Bool.and_eq_true, decide_eq_true_eq]
  omega

/-- Whether a span can be stored; what is not measured can. -/
theorem fitsColumn_of_span {start finish : Option Moment} {minutes : Int}
    (startDate : ∀ moment, start = some moment → moment.IsDate)
    (finishDate : ∀ moment, finish = some moment → moment.IsDate)
    (measured : span start finish = some minutes) : fitsColumn minutes = true := by
  unfold span at measured
  split at measured
  · rename_i start finish
    rw [← Option.some.inj measured]
    exact fitsColumn_minutesTo (startDate start rfl) (finishDate finish rfl)
  · contradiction

end Moment

/-- All moments among milestones are dates. -/
structure Milestones.AreDates (milestones : Milestones Moment) : Prop where
  created : milestones.created.IsDate
  firstCommit : ∀ moment, milestones.firstCommit = some moment → moment.IsDate
  merged : ∀ moment, milestones.merged = some moment → moment.IsDate
  deployed : ∀ moment, milestones.deployed = some moment → moment.IsDate

namespace Collected

variable {collected : Collected} {project name : String} {item : WorkItem}

theorem exists_of_firstCommitAt {pullRequestId : String} {moment : Moment}
    (found : collected.firstCommitAt pullRequestId = some moment) :
    ∃ commit ∈ collected.pullRequestCommits, commit.authoredAt = moment := by
  unfold firstCommitAt at found
  rcases Option.map_eq_some_iff.mp found with ⟨ticks, least, rfl⟩
  rcases List.mem_map.mp (List.min?_mem least) with ⟨commit, among, rfl⟩
  exact ⟨commit, (List.mem_filter.mp among).1, rfl⟩

theorem exists_of_mem_finished {deploymentId : String} {found : String × Moment}
    (mem : found ∈ collected.finished deploymentId) :
    ∃ deployment ∈ collected.deployments, deployment.id = found.1 ∧
      deployment.finishedAt = some found.2 := by
  unfold finished at mem
  rcases List.mem_filterMap.mp mem with ⟨deployment, among, shown⟩
  split at shown
  · rcases Option.map_eq_some_iff.mp shown with ⟨finishedAt, finished, rfl⟩
    exact ⟨deployment, among, rfl, finished⟩
  · contradiction

theorem exists_of_mem_shipping {subject : CommitSubject} {environment : Option String}
    {found : String × Moment} (mem : found ∈ subject.shipping environment) :
    ∃ deployment ∈ subject.collected.deployments, deployment.id = found.1 ∧
      deployment.finishedAt = some found.2 := by
  unfold CommitSubject.shipping at mem
  rcases List.mem_flatMap.mp (List.mem_mergeSort.mp mem) with ⟨entry, _, inFinished⟩
  exact exists_of_mem_finished inFinished

/-- The deployment that is found for a merge commit is one of the collected ones. -/
theorem exists_of_matchDeployment {mergeCommit : Option String}
    {deployment : MatchedDeployment Moment}
    (found : matchDeployment deploymentStrategies collected mergeCommit = some deployment) :
    ∃ row ∈ collected.deployments, row.id = deployment.deploymentId ∧
      row.finishedAt = some deployment.finishedAt := by
  unfold matchDeployment at found
  split at found
  · contradiction
  · split at found
    · contradiction
    · rcases Option.map_eq_some_iff.mp found with ⟨⟨name, row⟩, first, rfl⟩
      rcases Strategy.exists_of_firstMatch first with ⟨strategy, mem, _, rest, applies⟩
      simp only [deploymentStrategies, List.mem_cons, List.not_mem_nil, or_false] at mem
      rcases mem with rfl | rfl
      · have rows := Option.some.inj applies
        exact exists_of_mem_shipping (rows ▸ List.mem_cons_self)
      · have rows := Option.some.inj applies
        exact exists_of_mem_shipping (rows ▸ List.mem_cons_self)

/-- The milestones of a resolved work item are moments of rows. -/
theorem areDates_milestones {correlation : Correlation Moment} (storable : collected.Storable)
    (mem : item ∈ collected.workItems)
    (resolved : (resolve .usual collected project item).correlation = some correlation) :
    correlation.milestones.AreDates := by
  rw [resolve_correlation] at resolved
  rcases Option.map_eq_some_iff.mp resolved with ⟨⟨name, pullRequest⟩, found, rfl⟩
  have pullRequestMem := (mem_of_firstMatch found).1
  constructor
  · exact storable.workItems item mem (.moment item.createdAt) (by simp [Entity.toCells])
  · intro moment first
    rcases exists_of_firstCommitAt first with ⟨commit, commitMem, rfl⟩
    exact storable.pullRequestCommits commit commitMem (.moment commit.authoredAt)
      (by simp [Entity.toCells])
  · intro moment merged
    have cell : Schema.Cell.moment moment ∈ Entity.toCells pullRequest := by
      have merged : pullRequest.mergedAt = some moment := merged
      simp [Entity.toCells, merged, Schema.Cell.ofMoment?]
    exact storable.pullRequests pullRequest pullRequestMem _ cell
  · intro moment deployed
    rcases Option.map_eq_some_iff.mp deployed with ⟨deployment, matched, rfl⟩
    rcases exists_of_matchDeployment matched with ⟨row, rowMem, _, finished⟩
    have cell : Schema.Cell.moment deployment.finishedAt ∈ Entity.toCells row := by
      simp [Entity.toCells, finished, Schema.Cell.ofMoment?]
    exact storable.deployments row rowMem _ cell

end Collected

theorem Milestones.AreDates.fitsColumn {milestones : Milestones Moment} {minutes : Int}
    (dates : milestones.AreDates)
    (mem : some minutes ∈ [milestones.metrics.planning, milestones.metrics.coding,
      milestones.metrics.deploying, milestones.metrics.total]) :
    DeliveryCycle.fitsColumn minutes = true := by
  have created : ∀ moment, some milestones.created = some moment → moment.IsDate := by
    intro moment same
    exact Option.some.inj same ▸ dates.created
  simp only [List.mem_cons, List.not_mem_nil, or_false] at mem
  rcases mem with planning | coding | deploying | total
  · exact Moment.fitsColumn_of_span created dates.firstCommit planning.symm
  · exact Moment.fitsColumn_of_span dates.firstCommit dates.merged coding.symm
  · exact Moment.fitsColumn_of_span dates.merged dates.deployed deploying.symm
  · exact Moment.fitsColumn_of_span created dates.deployed total.symm

/-- The record of a resolved work item is never refused. -/
theorem upsert_draft {collected : Collected} {project : String} {item : WorkItem}
    {correlation : Correlation Moment} (storable : collected.Storable)
    (mem : item ∈ collected.workItems)
    (resolved : (resolve .usual collected project item).correlation = some correlation)
    (ledger : Ledger) :
    ledger.upsert correlation.momentRecord.draft = .ok (ledger.put correlation.momentRecord) := by
  apply Ledger.upsert_eq_ok_iff.mpr
  refine ⟨correlation.momentRecord, ?_, rfl⟩
  have connection : correlation.connectionId = item.connectionId := by
    rw [Collected.resolve_correlation] at resolved
    rcases Option.map_eq_some_iff.mp resolved with ⟨_, _, rfl⟩
    rfl
  have connectionFits : fitsColumn correlation.connectionId = true := by
    rw [connection]
    exact storable.workItems item mem (.integer item.connectionId) (by simp [Entity.toCells])
  have measuresFit : correlation.momentRecord.draft.measures.all fitsColumn = true := by
    apply List.all_eq_true.mpr
    intro minutes measured
    rcases List.mem_filterMap.mp measured with ⟨metric, metricMem, rfl⟩
    exact (Collected.areDates_milestones storable mem resolved).fitsColumn metricMem
  unfold RecordDraft.accepted?
  rw [if_pos]
  · rfl
  · exact Bool.and_eq_true_iff.mpr ⟨connectionFits, measuresFit⟩

end DeliveryCycle
