import DeliveryCycle.Job.Call
import DeliveryCycle.Proofs.Api.Answers
import DeliveryCycle.Service.Trigger
import Mathlib.Data.List.DropRight

/-!
# Which project names are let through

The name of a project is checked in three places: by the options of a run, by a request for a run
and by the command. The options and the command ask for a character that is not blank; the request
only asks for a character. So a request can start a run with a name of blanks, which the job then
refuses. `project_names_agree_iff` says that the three agree on all other names.
-/

namespace DeliveryCycle

namespace Text

/-- A text has a character that is not blank. -/
def HasInk (text : String) : Prop := ∃ character ∈ text.toList, isBlank character = false

section Trim

variable {drops : Char → Bool} {characters : List Char} {text : String}

theorem trimList_eq_rdropWhile (drops : Char → Bool) (characters : List Char) :
    trimList drops characters = (characters.dropWhile drops).rdropWhile drops := rfl

theorem trimList_eq_nil_iff :
    trimList drops characters = [] ↔ ∀ character ∈ characters, drops character = true := by
  rw [trimList_eq_rdropWhile, List.rdropWhile_eq_nil_iff, ← List.dropWhile_eq_nil_iff,
    List.dropWhile_idempotent, List.dropWhile_eq_nil_iff]

/-- Trimming twice is trimming once: cutting off the end leaves the first character where it is. -/
theorem trimList_trimList :
    trimList drops (trimList drops characters) = trimList drops characters := by
  have kept : (trimList drops characters).dropWhile drops = trimList drops characters := by
    rw [trimList_eq_rdropWhile, List.dropWhile_eq_self_iff]
    intro long
    have front := List.rdropWhile_prefix drops (characters.dropWhile drops)
    rw [front.getElem long]
    exact List.dropWhile_get_zero_not drops characters (long.trans_le front.length_le)
  rw [trimList_eq_rdropWhile drops (trimList drops characters), kept, trimList_eq_rdropWhile,
    List.rdropWhile_idempotent]

theorem trim_eq_empty_iff : trim text = "" ↔ ¬HasInk text := by
  have empty : trim text = "" ↔ trimList isBlank text.toList = [] := by
    rw [← String.toList_inj]
    simp [trim, trimBy]
  rw [empty, trimList_eq_nil_iff]
  simp [HasInk]

theorem trim_trim : trim (trim text) = trim text := by
  simp only [trim, trimBy, String.toList_ofList, trimList_trimList]

theorem hasInk_trim_iff : HasInk (trim text) ↔ HasInk text := by
  rw [← not_iff_not, ← trim_eq_empty_iff, ← trim_eq_empty_iff, trim_trim]

@[simp]
theorem not_hasInk_empty : ¬HasInk "" := by
  rintro ⟨_, mem, _⟩
  contradiction

theorem ne_empty_of_hasInk (ink : HasInk text) : text ≠ "" := by
  rintro rfl
  exact not_hasInk_empty ink

end Trim

end Text

open Remote (Client)

/-- The options of a run let a value through as the name of its project. -/
def RunOptions.Accepts (value : Json) : Prop :=
  ∃ options, ofJson (.object [(projectField, value)]) = .ok options

/-- The job that calculates cycle times refuses its arguments because they are no options. -/
def Job.Rejects (surroundings : Surroundings) (store : Store) (arguments : List Json) : Prop :=
  ∃ call issue, Call.ofArguments calculationName arguments = .ok call ∧
    (call.run surroundings store).result = .error (.invalidOptions issue)

/-- A text that is not empty but has only blank characters. -/
def IsBlankName (value : Json) : Prop :=
  ∃ name, value = .string name ∧ name ≠ "" ∧ ¬Text.HasInk name

namespace Api

/-- The body of a request is an object that names a project by this value. -/
def NamesProject (body : String) (value : Json) : Prop :=
  ∃ fields, Json.receive body = .ok (.object fields) ∧ getField? fields projectField = some value

/-- The body of a request for a run is let through. -/
def StartAccepts (body : String) : Prop := ∃ project, readProject body = .ok project

end Api

section Checks

variable {value : Json} {name body project : String}

theorem RunOptions.ofName_eq_ok_iff {options : RunOptions} :
    ofName name = .ok options ↔ Text.HasInk name ∧ options = ⟨Text.trim name⟩ := by
  by_cases ink : Text.HasInk name
  · have kept : Text.trim name ≠ "" := fun blank => Text.trim_eq_empty_iff.mp blank ink
    simp [ofName, Text.ne_empty_of_hasInk ink, kept, ink, eq_comm]
  · have blank := Text.trim_eq_empty_iff.mpr ink
    simp only [ofName, blank, ink]
    split <;> simp

theorem requireText_eq_ok_iff (location : List String) {given : Option Json} :
    requireText location given = .ok name ↔ given = some (.string name) ∧ name ≠ "" := by
  unfold requireText
  split
  · simp
  · rename_i text
    by_cases empty : text = ""
    · simp only [empty, if_true, reduceCtorEq, Option.some.injEq, Json.string.injEq, false_iff,
        not_and, not_not]
      exact Eq.symm
    · simp only [empty, if_false, Except.ok.injEq, Option.some.injEq, Json.string.injEq,
        iff_self_and]
      rintro rfl
      exact empty
  · simp
  · rename_i noString _
    simp only [reduceCtorEq, Option.some.injEq, false_iff, not_and]
    exact fun same => absurd same (noString name)

theorem RunOptions.accepts_iff :
    RunOptions.Accepts value ↔ ∃ name, value = .string name ∧ Text.HasInk name := by
  have field : getField? [(projectField, value)] projectField = some value := by simp [getField?]
  unfold RunOptions.Accepts
  simp only [ofJson, field]
  constructor
  · rintro ⟨options, accepted⟩
    cases required : requireText [projectField] (some value) with
    | error issue => simp [required, bind, Except.bind] at accepted
    | ok name =>
        rw [required] at accepted
        have given := ((requireText_eq_ok_iff _).mp required).1
        exact ⟨name, Option.some.inj given, (ofName_eq_ok_iff.mp accepted).1⟩
  · rintro ⟨name, rfl, ink⟩
    have required : requireText [projectField] (some (.string name)) = .ok name :=
      (requireText_eq_ok_iff _).mpr ⟨rfl, Text.ne_empty_of_hasInk ink⟩
    rw [required]
    exact ⟨_, ofName_eq_ok_iff.mpr ⟨ink, rfl⟩⟩

theorem Job.calculateCycleTime_invalid_iff (surroundings : Surroundings) (store : Store)
    {issue : Issue} :
    (calculateCycleTime surroundings store value).result = .error (.invalidOptions issue) ↔
      RunOptions.ofJson (.object [(projectField, value)]) = .error issue := by
  unfold calculateCycleTime
  cases RunOptions.ofJson (.object [(projectField, value)]) with
  | error refused => simp
  | ok options =>
      dsimp only
      split <;> simp

/-- The job refuses exactly the values that the options do not let through. -/
theorem Job.rejects_iff {surroundings : Surroundings} {store : Store} :
    Rejects surroundings store [value] ↔ ¬RunOptions.Accepts value := by
  have started : Call.ofArguments calculationName [value] = .ok (.calculate value) := rfl
  have refused (issue : Issue) :
      ((Call.calculate value).run surroundings store).result = .error (.invalidOptions issue) ↔
        RunOptions.ofJson (.object [(projectField, value)]) = .error issue := by
    rw [← calculateCycleTime_invalid_iff surroundings store]
    simp only [Call.run, JobResult.reporting]
    cases (calculateCycleTime surroundings store value).result <;> simp [Except.map]
  simp only [Rejects, started, Except.ok.injEq, exists_and_left, exists_eq_left', refused,
    RunOptions.Accepts]
  cases RunOptions.ofJson (.object [(projectField, value)]) <;> simp

/-- Asking for a character and asking for one that is not blank differ on names of blanks only. -/
theorem text_iff_ink_iff :
    ((∃ name, value = .string name ∧ name ≠ "") ↔
        ∃ name, value = .string name ∧ Text.HasInk name) ↔ ¬IsBlankName value := by
  cases value with
  | string name =>
      have given : Text.HasInk name → name ≠ "" := Text.ne_empty_of_hasInk
      simp only [Json.string.injEq, exists_eq_left', IsBlankName]
      tauto
  | _ => simp [IsBlankName]

theorem not_accepts_of_isBlankName (blank : IsBlankName value) : ¬RunOptions.Accepts value := by
  rcases blank with ⟨name, rfl, _, blank⟩
  rw [RunOptions.accepts_iff]
  rintro ⟨other, same, ink⟩
  cases same
  exact blank ink

namespace Api

/-- A body is let through exactly if it names its project by a text that is not empty. -/
theorem readProject_eq_ok_iff :
    readProject body = .ok project ↔ NamesProject body (.string project) ∧ project ≠ "" := by
  unfold readProject NamesProject
  by_cases empty : body = ""
  · subst empty
    have unread : Json.receive "" = .error .malformed := rfl
    simp [unread]
  · simp only [empty, if_false]
    cases read : Json.receive body with
    | error error => cases error <;> simp
    | ok value =>
        cases value with
        | object fields =>
            simp only [Except.ok.injEq, Json.object.injEq, exists_eq_left',
              ← requireText_eq_ok_iff ["body", projectField]]
            cases requireText ["body", projectField] (getField? fields projectField) <;>
              simp [Except.mapError]
        | _ => simp

theorem NamesProject.unique {other : Json} (named : NamesProject body value)
    (again : NamesProject body other) : other = value := by
  rcases named with ⟨fields, read, given⟩
  rcases again with ⟨otherFields, readAgain, givenAgain⟩
  cases read.symm.trans readAgain
  exact Option.some.inj (givenAgain.symm.trans given)

theorem startAccepts_iff (named : NamesProject body value) :
    StartAccepts body ↔ ∃ name, value = .string name ∧ name ≠ "" := by
  simp only [StartAccepts, readProject_eq_ok_iff]
  apply exists_congr
  intro name
  rw [and_congr_left_iff]
  intro _
  constructor
  · exact fun again => (named.unique again).symm
  · rintro rfl
    exact named

end Api

end Checks

section Entries

variable {environment : Environment} {client : Client}

theorem given?_of_ofEnvironment (described : Client.ofEnvironment environment = some client) :
    environment.given? "RENDER_API_KEY" = some client.key := by
  unfold Client.ofEnvironment Client.create at described
  simp only [Remote.orGiven, Option.filter_none, Option.none_or] at described
  split at described
  · rename_i created
    split at created
    · contradiction
    · contradiction
    · rename_i key _ given _
      rw [given, ← Option.some.inj described, ← Except.ok.inj created]
  · contradiction

/-- The command triggers a run of the project without the blanks around its name, if any name is
left. -/
theorem Service.calls_trigger {key : String}
    (keyed : environment.given? "RENDER_API_KEY" = some key) (name : String) (rest : List String)
    (run : ServiceRun) :
    (trigger environment (name :: rest) run).calls =
      if Text.trim name = "" then []
      else [⟨s!"{workflowId environment}/{Job.calculationName}", [Text.trim name]⟩] := by
  by_cases blank : Text.trim name = "" <;>
    simp [trigger, projectArgument?, keyed, blank, triggerProject, Option.filter]

theorem Service.calls_trigger_ne_nil_iff {key : String}
    (keyed : environment.given? "RENDER_API_KEY" = some key) (name : String) (rest : List String)
    (run : ServiceRun) :
    (trigger environment (name :: rest) run).calls ≠ [] ↔ RunOptions.Accepts (.string name) := by
  rw [calls_trigger keyed, RunOptions.accepts_iff]
  simp [Text.trim_eq_empty_iff]

/-- What the command triggers is never refused. -/
theorem Service.not_rejects_of_mem_calls {key : String}
    (keyed : environment.given? "RENDER_API_KEY" = some key) {arguments : List String}
    {run : ServiceRun} {call : ServiceCall} (mem : call ∈ (trigger environment arguments run).calls)
    (surroundings : Job.Surroundings) (store : Store) :
    ¬Job.Rejects surroundings store (call.arguments.map .string) := by
  cases arguments with
  | nil => contradiction
  | cons name rest =>
      rw [calls_trigger keyed] at mem
      split at mem
      · contradiction
      · rename_i kept
        rw [List.mem_singleton.mp mem, List.map_singleton, Job.rejects_iff, not_not,
          RunOptions.accepts_iff]
        have ink := not_not.mp (mt Text.trim_eq_empty_iff.mpr kept)
        exact ⟨_, rfl, Text.hasInk_trim_iff.mpr ink⟩

namespace Api

/-- A start with a name that is let through triggers a run of the project as it was named. -/
theorem startRun_sent {state : ServiceState} {body project : String}
    (described : Client.ofEnvironment environment = some client) (plain : client.HasPlainKey)
    (accepted : readProject body = .ok project) :
    (startRun environment state body).2.wire.sent =
      state.wire.sent ++ [client.startRequest Job.calculationName project] := by
  rcases state with ⟨tracking, wire⟩
  rw [startRun_of_plain described plain accepted]
  rfl

theorem startRun_of_refused {state : ServiceState} {body : String}
    (refused : ¬StartAccepts body) : (startRun environment state body).2 = state := by
  cases read : readProject body with
  | ok project => exact absurd ⟨project, read⟩ refused
  | error error => simp only [startRun, beginStart, read]

/-- The three places let the same names through, and no run is triggered that the job refuses. -/
def NamesAgree : Prop :=
  ∀ environment client, Client.ofEnvironment environment = some client →
    (∀ body value, NamesProject body value → (StartAccepts body ↔ RunOptions.Accepts value)) ∧
    (∀ name rest run, (Service.trigger environment (name :: rest) run).calls ≠ [] ↔
      RunOptions.Accepts (.string name)) ∧
    ∀ state body project surroundings store,
      (startRun environment state body).2.wire.sent =
          state.wire.sent ++ [client.startRequest Job.calculationName project] →
        ¬Job.Rejects surroundings store [.string project]

/-- On which names the three places agree. A request for a run and the options of a run agree on a
name exactly if it is empty or has a character that is not blank, and the command agrees with the
options on all names. A refused request changes nothing, and one that is let through triggers a run
of the project as it was named, which the job refuses exactly if the name has only blanks. What the
command triggers is never refused. -/
theorem project_names_agree_iff {environment : Environment} {client : Client}
    (described : Client.ofEnvironment environment = some client) :
    (∀ body value, NamesProject body value →
      ((StartAccepts body ↔ RunOptions.Accepts value) ↔ ¬IsBlankName value)) ∧
    (∀ name rest run, (Service.trigger environment (name :: rest) run).calls ≠ [] ↔
      RunOptions.Accepts (.string name)) ∧
    (∀ state body, ¬StartAccepts body → (startRun environment state body).2 = state) ∧
    (∀ state body project, client.HasPlainKey → readProject body = .ok project →
      (startRun environment state body).2.wire.sent =
          state.wire.sent ++ [client.startRequest Job.calculationName project] ∧
        ∀ surroundings store, Job.Rejects surroundings store [.string project] ↔
          IsBlankName (.string project)) ∧
    ∀ arguments run call surroundings store,
      call ∈ (Service.trigger environment arguments run).calls →
        ¬Job.Rejects surroundings store (call.arguments.map .string) := by
  have keyed := given?_of_ofEnvironment described
  refine ⟨?_, Service.calls_trigger_ne_nil_iff keyed, fun _ _ => startRun_of_refused, ?_, ?_⟩
  · intro body value named
    rw [startAccepts_iff named, RunOptions.accepts_iff]
    exact text_iff_ink_iff
  · intro state body project plain accepted
    refine ⟨startRun_sent described plain accepted, ?_⟩
    intro surroundings store
    have nonempty := (readProject_eq_ok_iff.mp accepted).2
    simp [Job.rejects_iff, RunOptions.accepts_iff, IsBlankName, nonempty]
  · intro arguments run call surroundings store mem
    exact Service.not_rejects_of_mem_calls keyed mem surroundings store

section Blank

/-- The body of a request for a run that names the project by one blank. -/
def blankBody : String := "\x7b\"project_name\":\" \"\x7d"

theorem namesProject_blankBody : NamesProject blankBody (.string " ") := by
  refine ⟨[(projectField, .string " ")], ?_, rfl⟩
  cbv

theorem isBlankName_blank : IsBlankName (.string " ") :=
  ⟨" ", rfl, by decide, Text.trim_eq_empty_iff.mp (by decide)⟩

/-- Such a request is let through. -/
theorem readProject_blankBody : readProject blankBody = .ok " " :=
  readProject_eq_ok_iff.mpr ⟨namesProject_blankBody, by decide⟩

/-- The options refuse the name that the request lets through. -/
theorem not_namesAgree : ¬NamesAgree := by
  intro agree
  have same := (agree configured configuredClient ofEnvironment_configured).1 blankBody _
    namesProject_blankBody
  exact not_accepts_of_isBlankName isBlankName_blank (same.mp ⟨" ", readProject_blankBody⟩)

/-- The request triggers a run that the job refuses. -/
theorem project_names_agree_iff_of_blankBody :
    (startRun configured .initial blankBody).2.wire.sent =
        [configuredClient.startRequest Job.calculationName " "] ∧
      ∀ surroundings store, Job.Rejects surroundings store [.string " "] := by
  rcases (project_names_agree_iff ofEnvironment_configured).2.2.2.1 .initial blankBody " "
    hasPlainKey_configuredClient readProject_blankBody with ⟨sent, rejects⟩
  refine ⟨sent, ?_⟩
  intro surroundings store
  exact (rejects surroundings store).mpr isBlankName_blank

end Blank

end Api

end Entries

end DeliveryCycle
