import DeliveryCycle.Proofs.Matching.Visibility
import DeliveryCycle.Proofs.Run.Sight
import DeliveryCycle.Proofs.Store.Storable
import DeliveryCycle.Run.Enrichment

/-!
# What a pass changes

A pass over a connection gives other branches to work items and changes nothing else; it is a case
of `Collected.rebranch`. Which branch a work item gets is said by `branchAfter`. It depends on the
link of the item and on the pull requests, but on no branch of a work item, so that a pass does not
change what any further pass does.
-/

namespace DeliveryCycle

/-- A work item with another branch. -/
def WorkItem.withBranch (item : WorkItem) (branch : String) : WorkItem :=
  { item with linkedBranch := branch }

@[simp]
theorem WorkItem.withBranch_key (item : WorkItem) (branch : String) :
    (item.withBranch branch).key = item.key := rfl

@[simp]
theorem WorkItem.withBranch_linkedBranch (item : WorkItem) :
    item.withBranch item.linkedBranch = item := rfl

@[simp]
theorem WorkItem.withBranch_withBranch (item : WorkItem) (first second : String) :
    (item.withBranch first).withBranch second = item.withBranch second := rfl

namespace Collected

variable {collected : Collected} {connectionId : Int} {item : WorkItem}

/-- The collected rows with other branches of work items. -/
def rebranch (collected : Collected) (branch : WorkItem → String) : Collected :=
  { collected with workItems := collected.workItems.map fun item => item.withBranch (branch item) }

/-- The branch of a work item after a pass over its connection. -/
def branchAfter (collected : Collected) (item : WorkItem) : String :=
  if item.hasLink then (collected.linkedBranch? item).getD item.linkedBranch else item.linkedBranch

theorem enrichedItem_eq :
    collected.enrichedItem connectionId item =
      if item.connectionId = connectionId then item.withBranch (collected.branchAfter item)
      else item := by
  unfold enrichedItem isEnrichable branchAfter
  by_cases own : item.connectionId = connectionId
  · subst own
    cases linked : item.hasLink <;> simp [WorkItem.withBranch]
  · simp [own]

theorem enrichedItem_of_own (item : WorkItem) :
    collected.enrichedItem item.connectionId item =
      item.withBranch (collected.branchAfter item) := by
  rw [enrichedItem_eq, if_pos rfl]

@[simp]
theorem enrichedItem_key : (collected.enrichedItem connectionId item).key = item.key := by
  rw [enrichedItem_eq]
  split <;> rfl

/-- The keys of the work items are the same whatever their branches are. -/
theorem keysApart_map_workItems {change : WorkItem → WorkItem}
    (keeps : ∀ item, (change item).key = item.key) (apart : KeysApart collected.workItems) :
    KeysApart (collected.workItems.map change) := by
  apply List.pairwise_map.mpr
  apply apart.imp
  intro left right differ
  simpa [WorkItem.keyCells_eq_iff, keeps] using differ

/-- A work item is found by its key. -/
theorem workItem?_eq_some (apart : KeysApart collected.workItems)
    (mem : item ∈ collected.workItems) :
    collected.workItem? item.connectionId item.id = some item := by
  have isSome : (collected.workItem? item.connectionId item.id).isSome :=
    List.find?_isSome.mpr ⟨item, mem, by simp⟩
  rcases Option.isSome_iff_exists.mp isSome with ⟨other, found⟩
  have otherMem : other ∈ collected.workItems := List.mem_of_find?_eq_some found
  have named : other.connectionId = item.connectionId ∧ other.id = item.id := by
    simpa using List.find?_some found
  have sameKey : other.key = item.key := Prod.ext named.1 named.2
  rw [found, List.inj_on_of_nodup_map (nodup_workItems_key apart) otherMem mem sameKey]

/-- What is found after a pass over the connection of a work item. -/
theorem workItem?_enriched (apart : KeysApart collected.workItems)
    (mem : item ∈ collected.workItems) :
    (collected.enriched item.connectionId).workItem? item.connectionId item.id =
      some (item.withBranch (collected.branchAfter item)) := by
  have enrichedApart : KeysApart (collected.enriched item.connectionId).workItems :=
    keysApart_map_workItems (fun _ => enrichedItem_key) apart
  have enrichedMem : collected.enrichedItem item.connectionId item ∈
      (collected.enriched item.connectionId).workItems := List.mem_map_of_mem mem
  rw [enrichedItem_of_own] at enrichedMem
  exact workItem?_eq_some enrichedApart enrichedMem

/-- A pass over a connection that can be stored. -/
theorem enrich_of_fits (collected : Collected) (fits : fitsColumn connectionId = true) :
    ∃ enrichment, collected.enrich (.int connectionId) = .ok enrichment ∧
      enrichment.collected = collected.enriched connectionId := by
  simp only [enrich, comparedInteger_int fits]
  exact ⟨_, rfl, rfl⟩

/-- A pass counts the work items that it changes. -/
theorem count_of_enrich (fits : fitsColumn connectionId = true) {enrichment : Enrichment}
    (passed : collected.enrich (.int connectionId) = .ok enrichment) :
    enrichment.count = collected.enrichedCount connectionId := by
  simp only [enrich, comparedInteger_int fits] at passed
  cases passed
  rfl

theorem enrich_of_unfit (unfit : fitsColumn connectionId = false) :
    collected.enrich (.int connectionId) = .error .integerTooLarge := by
  simp [enrich, comparedInteger, checkInteger, unfit, bind, Except.bind]

theorem fitsColumn_of_stored (stored : RowsStorable collected.workItems)
    (mem : item ∈ collected.workItems) : fitsColumn item.connectionId = true :=
  stored item mem (.integer item.connectionId) (by simp [Entity.toCells])

section Rebranched

variable {branch : WorkItem → String} {project : String}

theorem keysApart_rebranch (apart : KeysApart collected.workItems) (branch : WorkItem → String) :
    KeysApart (collected.rebranch branch).workItems :=
  keysApart_map_workItems (fun _ => rfl) apart

/-- The candidates of a project are the same whatever their branches are, in the same order. -/
theorem candidates_rebranch (apart : KeysApart collected.workItems) :
    (collected.rebranch branch).candidates project =
      (collected.candidates project).map fun item => item.withBranch (branch item) := by
  have keyed : (((collected.rebranch branch).candidates project).map (·.key)).Nodup :=
    nodup_candidates_key (keysApart_rebranch apart branch)
  have sameKeys : ((collected.candidates project).map fun item => item.withBranch (branch item)).map
      (·.key) = (collected.candidates project).map (·.key) := by
    rw [List.map_map]
    rfl
  have mapped : (((collected.candidates project).map fun item =>
      item.withBranch (branch item)).map (·.key)).Nodup :=
    sameKeys ▸ nodup_candidates_key apart
  have ordered : ((collected.candidates project).map fun item =>
      item.withBranch (branch item)).Pairwise
        fun first second => precedes (·.connectionId) (·.id) first second = true :=
    List.pairwise_map.mpr pairwise_candidates
  apply eq_of_perm_of_pairwise_precedes _ pairwise_candidates ordered
  · intro left leftMem right rightMem sameConnection sameId
    exact List.inj_on_of_nodup_map keyed leftMem rightMem (Prod.ext sameConnection sameId)
  · apply (List.perm_ext_iff_of_nodup keyed.of_map mapped.of_map).mpr
    intro item
    rw [mem_candidates_iff, List.mem_map]
    constructor
    · rintro ⟨mem, linked⟩
      rcases List.mem_map.mp mem with ⟨before, beforeMem, rfl⟩
      exact ⟨before, mem_candidates_iff.mpr ⟨beforeMem, linked⟩, rfl⟩
    · rintro ⟨before, candidate, rfl⟩
      rcases mem_candidates_iff.mp candidate with ⟨beforeMem, linked⟩
      exact ⟨List.mem_map_of_mem beforeMem, linked⟩

/-- A work item is resolved without a look at any branch of a work item. -/
theorem resolve_rebranch (item : WorkItem) (own : String) :
    resolve .usual (collected.rebranch branch) project (item.withBranch own) =
      resolve .usual collected project item := rfl

end Rebranched

end Collected

/-- A run sees work items with other branches as the work items that they are. -/
theorem RunPlan.seesAs_rebranch (plan : RunPlan) (apart : KeysApart plan.collected.workItems)
    (branch : WorkItem → String) :
    plan.SeesAs (plan.collected.rebranch branch) fun item => item.withBranch (branch item) where
  candidates := Collected.candidates_rebranch apart
  resolution item := Collected.resolve_rebranch item (branch item)
  key _ := rfl

end DeliveryCycle
