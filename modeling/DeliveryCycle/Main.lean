import DeliveryCycle.Json.Reader
import DeliveryCycle.Service.Startup
import DeliveryCycle.Service.Trigger

/-!
# The command line

Two commands: `start` reports what the workflow service finds in its environment, and `trigger`
starts the calculation for a project, with the answer of the workflow service read from the
standard input. What they print and their exit codes are decided in `Service.startupLines` and
`Service.trigger`.
-/

namespace DeliveryCycle.CommandLine

/-- The variables among the named ones that are set. -/
def readEnvironment (names : List String) : IO Environment :=
  names.filterMapM fun name => do
    return (← IO.getEnv name).map fun value => (name, value)

/-- Reports what the service finds when it starts. -/
def start : IO UInt32 := do
  let names := (Service.requiredVariables ++ Service.optionalVariables).map (·.1)
  for line in Service.startupLines (← readEnvironment names) do
    IO.println line.shown
  return 0

/-- Starts the calculation for the project that the arguments name. -/
def trigger (arguments : List String) : IO UInt32 := do
  let answer ← (← IO.getStdin).getLine
  let run := Service.ServiceRun.ofJson ((Json.parse? answer).getD .null)
  let result := Service.trigger (← readEnvironment Service.triggerVariables) arguments run
  result.printed.forM fun line => IO.println line
  return (result.exitCode.getD 0).toUInt32

end DeliveryCycle.CommandLine

/-- Runs the command that the first argument names. -/
def main (arguments : List String) : IO UInt32 :=
  match arguments with
  | ["start"] => DeliveryCycle.CommandLine.start
  | "trigger" :: rest => DeliveryCycle.CommandLine.trigger rest
  | _ => do
      IO.eprintln "usage: start | trigger <project-name>"
      return 2
