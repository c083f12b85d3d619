import DeliveryCycle.Job.Registry
import DeliveryCycle.Log.Entry
import DeliveryCycle.Settings.Environment

/-!
# Starting the workflow service

Before the service starts it looks at its environment. A variable that has to be set and is not is
an issue; the service starts nevertheless, after a warning. Of a secret only the beginning is shown,
and nothing of a short one.
-/

namespace DeliveryCycle.Service

/-- A line of the report: a level and a text. -/
abbrev ReportLine := Log.Level × String

def ReportLine.shown (line : ReportLine) : String := s!"{line.1.name} - {line.2}"

/-- The variables that have to be set, with what they are for. -/
def requiredVariables : List (String × String) :=
  [("DATABASE_URL", "PostgreSQL connection shared with the upstream collectors")]

/-- The variables that may be set, with what they are for. -/
def optionalVariables : List (String × String) :=
  [("CANDIDATE_BATCH_SIZE", "Rows fetched per cursor round trip (default 100)"),
    ("LOG_FORMAT", "Set to 'json' for structured logs")]

def info (text : String) : ReportLine := (.info, text)

def warning (text : String) : ReportLine := (.warning, text)

/-- A secret with all but its first eight characters hidden. -/
def masked (secret : String) : String :=
  if 8 < secret.length then String.ofList (secret.toList.take 8) ++ "..." else "***"

def requiredLine? (environment : Environment) (variableName : String) : Option ReportLine :=
  (environment.given? variableName).map fun value =>
    info s!"  ✓ {variableName}={masked value}"

def optionalLine (environment : Environment) (variableName description : String) : ReportLine :=
  match environment.given? variableName with
  | some value => info s!"  ✓ {variableName}={value}"
  | none => info s!"  ○ {variableName} not set ({description})"

/-- The issues of an environment, one line for each. -/
def issues (environment : Environment) : List String :=
  requiredVariables.filterMap fun (variableName, description) =>
    match environment.given? variableName with
    | some _ => none
    | none => some s!"  - {variableName}: {description}"

/-- The lines that are written while an environment is looked at. -/
def validationLines (environment : Environment) : List ReportLine :=
  info "Validating environment variables..." ::
    (requiredVariables.filterMap fun entry => requiredLine? environment entry.1) ++
    optionalVariables.map fun entry => optionalLine environment entry.1 entry.2

def banner : ReportLine := info (String.ofList (List.replicate 70 '='))

/-- The warning about issues; without issues there is none. -/
def issueLines (issues : List String) : List ReportLine :=
  if issues.isEmpty then []
  else
    [warning "", warning "Missing required environment variables:"] ++ issues.map warning ++
      [warning "", warning "Configure these in the Render Workflow settings.",
        warning "Tasks may fail if these are not set.", warning ""]

def startupLines (environment : Environment) : List ReportLine :=
  [banner, info "Business Cycle Metrics - Workflow Service", banner] ++
    validationLines environment ++ issueLines (issues environment) ++
    [info "", info "Registering workflow tasks...", info "", info "Registered tasks:"] ++
    Job.registered.map (fun name => info s!"  - {name}") ++
    [info "", banner, info "Starting workflow service...", banner]

end DeliveryCycle.Service
