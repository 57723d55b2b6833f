import Criteria.Program
/-!
# The executable

The run of the program against real files and streams.
-/
namespace Criteria.Main

def settingVariables : List String :=
  ["CONFIG_DIR", "RULES_ENV", "RULES_SERVICE_NAME", "RULES_ENVIRONMENT",
    "RULES_ENGINE__TRACE_ENABLED", "RULES_ENGINE__CATALOGUE_PATH", "RULES_ENGINE__RULESETS_PATH",
    "RULES_ENGINE__LINT_ON_LOAD", "RULES_OBSERVABILITY__LOG_LEVEL",
    "RULES_OBSERVABILITY__LOG_FORMAT"]

def readEnvironment : IO (Table String) :=
  settingVariables.foldlM (fun t name => do
    match ← IO.getEnv name with
    | some value => return t.insert name value
    | none => return t) []

def readFile? (path : String) : IO (Option String) := do
  try
    return some (← IO.FS.readFile path)
  catch _ =>
    return none

/-- Answer the requests of a run up to its report. -/
def perform : Action → IO Report
  | .readFile path next => do perform (next (← readFile? path))
  | .readInput next => do perform (next (← (← IO.getStdin).readToEnd))
  | .done r => return r

end Criteria.Main

def main (words : List String) : IO UInt32 := do
  let report ← Criteria.Main.perform (Criteria.Program.run words (← Criteria.Main.readEnvironment))
  IO.print report.output
  if let some message := report.error then IO.eprintln message
  return report.exitCode.toUInt32
