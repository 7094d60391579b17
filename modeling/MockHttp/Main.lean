import MockHttp.Command.Run
import MockHttp.Log.Render

/-!
# The program

Reads its arguments, the environment and the files that a command names, runs the command and writes
what it leaves behind. Log lines go where errors go.
-/

namespace MockHttp.Program

open Command

/-- The variables of the environment that count. -/
def variableNames : List String := [
  "PATHMOCK_BASE_URL", "PATHMOCK_METHOD", "PATHMOCK_TIMEOUT_SECS", "PATHMOCK_INTERNET_DELAY_MS",
  "PATHMOCK_CACHE_CAPACITY", "PATHMOCK_LOG_LEVEL", "PATHMOCK_LOG_FORMAT",
  "PATHMOCK_LOG_TARGET_FILTER", "PATHMOCK_LOG_INCLUDE_LOCATION", "RUST_LOG"]

def environment : IO Log.Environment :=
  variableNames.filterMapM fun name => do return (← IO.getEnv name).map (name, ·)

def fileText (file : String) : IO (Option String) := do
  try return some (← IO.FS.readFile file)
  catch _ => return none

def fileTexts (files : List String) : IO (List (String × String)) :=
  files.filterMapM fun file => do return (← fileText file).map (file, ·)

def filesOf : Command → List String
  | .dispatch c => c.fixtures :: c.config.toList
  | _ => []

/-- What is written where words make no command, and whether that was asked for. -/
def usage : UsageError → String × Bool
  | .displayHelp => ("Usage: pathmock <compile|match|dispatch|help> [OPTIONS] [ARGS]", true)
  | .displayVersion => ("pathmock 0.1.0-alpha.1", true)
  | .displayHelpOnMissingArgumentOrSubcommand =>
    ("Usage: pathmock <compile|match|dispatch|help> [OPTIONS] [ARGS]", false)
  | .invalidValue => ("error: a value is required but none was supplied", false)
  | .unknownArgument => ("error: unexpected argument found", false)
  | .invalidSubcommand => ("error: unrecognized subcommand", false)
  | .valueValidation => ("error: invalid value for an argument", false)
  | .tooManyValues => ("error: unexpected value for an argument", false)
  | .argumentConflict => ("error: an argument cannot be used multiple times", false)
  | .missingRequiredArgument => ("error: required arguments were not provided", false)

/-- Runs a command and gives the exit status. -/
def perform (display : Option Log.Display) (env : Log.Environment) (c : Command) : IO UInt32 := do
  let texts ← fileTexts (filesOf c)
  let fresh ← IO.rand 0 (Nat.pow 2 128 - 1)
  let context : Context :=
    { env := env, fileText := fun file => texts.lookup file, freshId := .ofNat fresh }
  let result := c.run context
  if let some d := display then
    for line in d.lines (result.steps.filterMap Step.event?) do
      IO.eprintln line
  match result.value with
  | .ok report =>
    IO.print report.output
    IO.eprint report.errors
    return if report.success then 0 else 1
  | .error e =>
    IO.eprintln ("Error: " ++ e.message)
    return 1

/-- Runs the command that the arguments name and gives the exit status. -/
def start (args : List String) : IO UInt32 := do
  let env ← environment
  let (display, _, warnings) := Log.setUp none (.ofEnvironment env) env
  for warning in warnings do
    IO.eprintln warning
  match Command.parse args with
  | .ok c => perform display env c
  | .error e =>
    let (text, asked) := usage e
    if asked then IO.println text else IO.eprintln text
    return if asked then 0 else 2

end MockHttp.Program

def main (args : List String) : IO UInt32 := MockHttp.Program.start args
