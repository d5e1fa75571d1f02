import RequestBinding.Command.Line
import RequestBinding.Log.Line

/-!
# The program

Reads the arguments and the environment, runs the command line and writes what it comes to. Events
are written to the error stream, one on a line.
-/

namespace RequestBinding

/-- The environment variables that the program looks at. -/
def watchedVariables : List String :=
  [Settings.memoryVariable, Settings.indexVariable, "PARAMBIND_LOG_LEVEL", "PARAMBIND_LOG_FORMAT",
    "PARAMBIND_LOG_TARGET_FILTER", "PARAMBIND_LOG_INCLUDE_LOCATION", "RUST_LOG"]

/-- The forms of a command line. -/
def usage : String :=
  "Usage: parambind tags <TAG> [--regexp <PATTERN>]\n"
    ++ "       parambind bind --query <QUERY> --key <KEY> [--map] [--max-array-index <N>]\n"

end RequestBinding

open RequestBinding in
/-- Runs the program. -/
def main (args : List String) : IO UInt32 := do
  let mut environment : List (String × String) := []
  for name in watchedVariables do
    if let some value ← IO.getEnv name then
      environment := (name, value) :: environment
  let outcome := Command.program (fun name => environment.lookup name) args
  for e in outcome.events do
    IO.eprintln e.toJson.compact
  IO.print outcome.output
  IO.eprint outcome.complaints
  if outcome.status == 2 then
    IO.eprint usage
  return UInt32.ofNat outcome.status
