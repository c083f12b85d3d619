import DeliveryCycle.Text.Blank
import DeliveryCycle.Validation.Issue

/-!
# Options of a run

A run is started for a project. The name of the project is taken without the blank characters at
its ends, and a name without any other character is refused.
-/

namespace DeliveryCycle

/-- The field of the options, and of a request for a run, that names the project. -/
def projectField : String := "project_name"

structure RunOptions where
  project : String
deriving DecidableEq, Repr

/-- Lets through a value that is there and is a text of at least one character. -/
def requireText (location : List String) (value : Option Json) : Except Issue String :=
  match value with
  | none => .error ⟨.missing, location⟩
  | some (.string text) => if text = "" then .error ⟨.textTooShort, location⟩ else .ok text
  | some (.unpaired _) => .error ⟨.textUnpaired, location⟩
  | some _ => .error ⟨.textRequired, location⟩

namespace RunOptions

def ofName (name : String) : Except Issue RunOptions :=
  if name = "" then .error ⟨.textTooShort, [projectField]⟩
  else
    let project := Text.trim name
    if project = "" then .error ⟨.blankProject, [projectField]⟩ else .ok ⟨project⟩

def ofJson (value : Json) : Except Issue RunOptions :=
  match value with
  | .object fields => do ofName (← requireText [projectField] (getField? fields projectField))
  | _ => .error ⟨.objectRequired, []⟩

/-- Options never name the empty project. -/
theorem project_ne_empty_of_ofName {name : String} {options : RunOptions}
    (accepted : ofName name = .ok options) : options.project ≠ "" := by
  unfold ofName at accepted
  split at accepted
  · contradiction
  · rcases Classical.em (Text.trim name = "") with blank | given
    · simp [blank] at accepted
    · simp only [given, if_false, Except.ok.injEq] at accepted
      exact accepted ▸ given

end RunOptions

end DeliveryCycle
