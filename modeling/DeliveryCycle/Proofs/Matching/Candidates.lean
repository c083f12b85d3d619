import DeliveryCycle.Matching.Selection
import DeliveryCycle.Proofs.Store.PrimaryKey
import Mathlib.Data.List.Nodup

/-!
# Candidates of a store

The join that finds the candidates of a project may find a work item several times. The candidates
hold it once: if no two work items share a primary key, no two candidates are the same task of a
connection.
-/

namespace DeliveryCycle

theorem nodup_eraseDups {α : Type} [BEq α] [LawfulBEq α] :
    (items : List α) → items.eraseDups.Nodup
  | [] => by simp
  | item :: rest => by
      have restNodup := nodup_eraseDups (rest.filter fun other => !other == item)
      have itemGone : item ∉ (rest.filter fun other => !other == item).eraseDups := by
        simp [List.mem_eraseDups]
      rw [List.eraseDups_cons]
      exact List.nodup_cons.mpr ⟨itemGone, restNodup⟩
termination_by items => items.length
decreasing_by exact Nat.lt_succ_of_le (List.length_filter_le _ _)

namespace Collected

variable {collected : Collected} {project : String}

/-- A row of the join is the work item it was found for. -/
theorem eq_of_mem_candidateRows {item row : WorkItem}
    (mem : row ∈ collected.candidateRows project item) : row = item := by
  unfold candidateRows at mem
  split at mem
  · split at mem
    · rcases List.mem_flatMap.mp mem with ⟨pullRequest, _, rowMem⟩
      split at rowMem
      · rcases List.mem_map.mp rowMem with ⟨_, _, rfl⟩
        rfl
      · contradiction
    · contradiction
  · contradiction

theorem mem_workItems_of_mem_candidates {item : WorkItem}
    (mem : item ∈ collected.candidates project) : item ∈ collected.workItems := by
  simp only [candidates, List.mem_mergeSort, List.mem_eraseDups, List.mem_flatMap] at mem
  rcases mem with ⟨found, foundMem, rowMem⟩
  exact eq_of_mem_candidateRows rowMem ▸ foundMem

theorem nodup_workItems_key (apart : KeysApart collected.workItems) :
    (collected.workItems.map (·.key)).Nodup := by
  apply List.pairwise_map.mpr
  apply apart.imp
  intro left right differ equal
  exact differ (WorkItem.keyCells_eq_iff.mpr equal)

theorem nodup_pullRequests_id (apart : KeysApart collected.pullRequests) :
    (collected.pullRequests.map (·.id)).Nodup := by
  apply List.pairwise_map.mpr
  apply apart.imp
  intro left right differ equal
  exact differ (PullRequest.keyCells_eq_iff.mpr equal)

/-- No two candidates are the same task of a connection. -/
theorem nodup_candidates_key (apart : KeysApart collected.workItems) :
    ((collected.candidates project).map (·.key)).Nodup := by
  have nodup : (collected.candidates project).Nodup :=
    (nodup_eraseDups _).perm (List.mergeSort_perm _ _).symm
  apply nodup.map_on
  intro left leftMem right rightMem sameKey
  exact List.inj_on_of_nodup_map (nodup_workItems_key apart)
    (mem_workItems_of_mem_candidates leftMem) (mem_workItems_of_mem_candidates rightMem) sameKey

end Collected

/-- A cursor hands out all rows or none, whatever it fetches at a time. -/
theorem fetched_rows_prefix_rows {Row : Type} (size : Int) (rows : List Row) :
    (fetched size rows).rows <+: rows := by
  unfold fetched
  generalize (if rows.isEmpty then (0 : Int) else 1) = opened
  dsimp only
  split
  · exact List.nil_prefix
  · split
    · exact List.nil_prefix
    · split <;> exact List.prefix_refl rows

end DeliveryCycle
