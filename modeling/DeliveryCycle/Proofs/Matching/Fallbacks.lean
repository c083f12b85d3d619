import DeliveryCycle.Matching.Strategy
import DeliveryCycle.Proofs.Matching.PullRequestChoice

/-!
# Fallbacks

A fallback is a strategy behind others. `IsFoundBy` says whose row a lookup gives, without running
the lookup: it is the best row of a strategy that only idle ones precede. `AlikeFor` relates lists
that differ in idle strategies only, wherever these stand.

From how a lookup treats its first strategy follows that fallbacks compose, by `fallbacks_compose`.
For work items this means that a resolution that found a deployment stays as it is under all
fallbacks, its log included, by `resolve_of_fallbacks`.
-/

namespace DeliveryCycle

namespace Strategy

variable {Subject Row : Type} {subject : Subject} {strategy : Strategy Subject Row}
variable {strategies left right : List (Strategy Subject Row)} {name : String} {row : Row}

/-- A row is the best one of a strategy in a list, and all strategies in front of it are idle. -/
structure IsFoundBy (strategies : List (Strategy Subject Row)) (subject : Subject)
    (strategy : Strategy Subject Row) (row : Row) : Prop where
  best : ∃ others, strategy.rows? subject = some (row :: others)
  place : ∃ before after, strategies = before ++ strategy :: after ∧
    ∀ earlier ∈ before, earlier.IsIdle subject

/-- Two lists of strategies are the same but for strategies that are idle for a subject. -/
inductive AlikeFor (subject : Subject) :
    List (Strategy Subject Row) → List (Strategy Subject Row) → Prop
  | none : AlikeFor subject [] []
  | both (strategy : Strategy Subject Row) {left right : List (Strategy Subject Row)} :
      AlikeFor subject left right → AlikeFor subject (strategy :: left) (strategy :: right)
  | onLeft {strategy : Strategy Subject Row} {left right : List (Strategy Subject Row)} :
      strategy.IsIdle subject → AlikeFor subject left right →
      AlikeFor subject (strategy :: left) right
  | onRight {strategy : Strategy Subject Row} {left right : List (Strategy Subject Row)} :
      strategy.IsIdle subject → AlikeFor subject left right →
      AlikeFor subject left (strategy :: right)

theorem best?_eq_some_iff :
    strategy.best? subject = some (name, row) ↔
      strategy.name = name ∧ ∃ others, strategy.rows? subject = some (row :: others) := by
  unfold best?
  cases strategy.rows? subject with
  | none => simp
  | some rows => cases rows <;> simp

theorem firstMatch_cons (strategy : Strategy Subject Row)
    (strategies : List (Strategy Subject Row)) (subject : Subject) :
    firstMatch (strategy :: strategies) subject =
      (strategy.best? subject).or (firstMatch strategies subject) := by
  unfold firstMatch
  rw [List.findSome?_cons]
  cases strategy.best? subject <;> rfl

theorem firstMatch_cons_of_isIdle (idle : strategy.IsIdle subject) :
    firstMatch (strategy :: strategies) subject = firstMatch strategies subject := by
  rw [firstMatch_cons, (strategy.best?_eq_none_iff subject).mpr idle, Option.none_or]

theorem AlikeFor.firstMatch_eq (alike : AlikeFor subject left right) :
    firstMatch left subject = firstMatch right subject := by
  induction alike with
  | none => rfl
  | both strategy _ ih => rw [firstMatch_cons, firstMatch_cons, ih]
  | onLeft idle _ ih => rw [firstMatch_cons_of_isIdle idle, ih]
  | onRight idle _ ih => rw [firstMatch_cons_of_isIdle idle, ih]

theorem firstMatch_eq_some_iff :
    firstMatch strategies subject = some (name, row) ↔
      ∃ strategy, strategy.name = name ∧ IsFoundBy strategies subject strategy row := by
  unfold firstMatch
  rw [List.findSome?_eq_some_iff]
  constructor
  · rintro ⟨before, strategy, after, split, best, earlier⟩
    rcases best?_eq_some_iff.mp best with ⟨named, found⟩
    refine ⟨strategy, named, found, before, after, split, ?_⟩
    intro other mem
    exact (other.best?_eq_none_iff subject).mp (earlier other mem)
  · rintro ⟨strategy, named, found, before, after, split, earlier⟩
    refine ⟨before, strategy, after, split, best?_eq_some_iff.mpr ⟨named, found⟩, ?_⟩
    intro other mem
    exact (other.best?_eq_none_iff subject).mpr (earlier other mem)

theorem firstMatch_eq_none_iff :
    firstMatch strategies subject = none ↔ ∀ strategy ∈ strategies, strategy.IsIdle subject := by
  unfold firstMatch
  rw [List.findSome?_eq_none_iff]
  constructor
  · intro nothing strategy mem
    exact (strategy.best?_eq_none_iff subject).mp (nothing strategy mem)
  · intro idle strategy mem
    exact (strategy.best?_eq_none_iff subject).mpr (idle strategy mem)

/-- A lookup over two lists of strategies gives what the first list finds, and what the second one
gives if the first finds nothing. Idle strategies do not count, wherever they stand. A row is given,
with the name of its strategy, exactly if it is the best one of a strategy that only idle ones
precede, and none is given exactly if all strategies are idle. -/
theorem fallbacks_compose (subject : Subject) :
    (∀ first second : List (Strategy Subject Row),
      ((firstMatch first subject).isSome →
        firstMatch (first ++ second) subject = firstMatch first subject) ∧
      (firstMatch first subject = none →
        firstMatch (first ++ second) subject = firstMatch second subject)) ∧
    (∀ left right : List (Strategy Subject Row), AlikeFor subject left right →
      firstMatch left subject = firstMatch right subject) ∧
    (∀ (strategies : List (Strategy Subject Row)) (name : String) (row : Row),
      firstMatch strategies subject = some (name, row) ↔
        ∃ strategy, strategy.name = name ∧ IsFoundBy strategies subject strategy row) ∧
    (∀ strategies : List (Strategy Subject Row),
      firstMatch strategies subject = none ↔
        ∀ strategy ∈ strategies, strategy.IsIdle subject) := by
  refine ⟨?appended, ?idle, ?found, ?nothing⟩
  case appended =>
    intro first second
    rw [firstMatch_append]
    constructor
    · intro found
      exact Option.or_of_isSome found
    · intro nothing
      rw [nothing, Option.none_or]
  case idle => exact fun _ _ alike => alike.firstMatch_eq
  case found => exact fun _ _ _ => firstMatch_eq_some_iff
  case nothing => exact fun _ => firstMatch_eq_none_iff

end Strategy

section Resolution

variable {collected : Collected} {project : String} {item : WorkItem}

theorem matchPullRequest_of_fallbacks {strategies : List (Strategy ItemSubject PullRequest)}
    {subject : ItemSubject} {pullRequest : MatchedPullRequest Moment}
    (matched : matchPullRequest strategies subject = some pullRequest)
    (fallbacks : List (Strategy ItemSubject PullRequest)) :
    matchPullRequest (strategies ++ fallbacks) subject = some pullRequest := by
  unfold matchPullRequest at matched ⊢
  rcases Option.map_eq_some_iff.mp matched with ⟨found, first, _⟩
  rw [Strategy.firstMatch_append, first, Option.some_or, ← first]
  exact matched

theorem matchDeployment_of_fallbacks {strategies : List (Strategy CommitSubject (String × Moment))}
    {mergeCommit : Option String} {deployment : MatchedDeployment Moment}
    (matched : matchDeployment strategies collected mergeCommit = some deployment)
    (fallbacks : List (Strategy CommitSubject (String × Moment))) :
    matchDeployment (strategies ++ fallbacks) collected mergeCommit = some deployment := by
  cases mergeCommit with
  | none => contradiction
  | some commit =>
      by_cases empty : commit = ""
      · simp [matchDeployment, empty] at matched
      · simp only [matchDeployment, empty, if_false] at matched ⊢
        rcases Option.map_eq_some_iff.mp matched with ⟨found, first, _⟩
        rw [Strategy.firstMatch_append, first, Option.some_or, ← first]
        exact matched

/-- A resolution that found a deployment stays as it is, whatever fallbacks are appended. -/
theorem resolve_of_fallbacks {strategies : Strategies} {correlation : Correlation Moment}
    (resolved : (resolve strategies collected project item).correlation = some correlation)
    (deployed : correlation.deployment.isSome) (fallbacks : Strategies) :
    resolve ⟨strategies.pullRequest ++ fallbacks.pullRequest,
        strategies.deployment ++ fallbacks.deployment⟩ collected project item =
      resolve strategies collected project item := by
  cases matched : matchPullRequest strategies.pullRequest ⟨collected, project, item⟩ with
  | none => simp [resolve, matched] at resolved
  | some pullRequest =>
      simp only [resolve, matched, Option.some.injEq] at resolved
      subst resolved
      have ⟨deployment, found⟩ := Option.isSome_iff_exists.mp deployed
      dsimp only at found
      have samePullRequest := matchPullRequest_of_fallbacks matched fallbacks.pullRequest
      have sameDeployment := matchDeployment_of_fallbacks found fallbacks.deployment
      simp only [resolve, matched, samePullRequest, found, sameDeployment]

end Resolution

/-- A task that no pull request mentions, with the number of one. -/
def unmentionedSubject : ItemSubject := ⟨rivalRows, "project", namedTask "unheard" (some 1)⟩

/-- The first of the usual strategies finds nothing for the task, so that the second one decides,
and one more strategy in front changes nothing. -/
theorem fallbacks_compose_on_rivalRows :
    byTaskReference.IsIdle unmentionedSubject ∧
      Strategy.firstMatch [byTaskReference] unmentionedSubject = none ∧
      Strategy.firstMatch ([byTaskReference] ++ [byLinkedNumber]) unmentionedSubject =
        Strategy.firstMatch [byLinkedNumber] unmentionedSubject ∧
      Strategy.firstMatch [byLinkedNumber, byTaskReference] unmentionedSubject =
        Strategy.firstMatch [byTaskReference, byTaskReference, byLinkedNumber]
          unmentionedSubject := by
  have idle : byTaskReference.IsIdle unmentionedSubject := .inr (by cbv)
  rcases @Strategy.fallbacks_compose ItemSubject PullRequest unmentionedSubject with
    ⟨appended, unchanged, _, nothing⟩
  have none : Strategy.firstMatch [byTaskReference] unmentionedSubject = none :=
    (nothing _).mpr (by simpa using idle)
  refine ⟨idle, none, (appended _ _).2 none, ?_⟩
  exact unchanged _ _ (.onRight idle (.onRight idle (.both _ (.onLeft idle .none))))

end DeliveryCycle
