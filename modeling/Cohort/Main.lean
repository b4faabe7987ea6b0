import Cohort.Command.Running

/-!
# The program

Runs the command that its arguments name: results and statements go to the standard output, errors to the standard
error.
-/

open Cohort

/-- The text of a file, if it can be read. -/
def readTextFile (path : String) : IO (Option String) := do
  try
    return some (← IO.FS.readFile path)
  catch _ =>
    return none

def usageText : String :=
  "usage: cohort search --config FILE --project NAME [OPTIONS]\n" ++
  "       cohort segment --config FILE --project NAME --name NAME --table NAME [OPTIONS]\n" ++
  "       cohort user-agent --config FILE [--ua-db-path FILE] USER_AGENT"

def main (arguments : List String) : IO UInt32 := do
  match Command.ofLine arguments with
  | .error .help => do
    IO.println usageText
    return 0
  | .error .version => do
    IO.println "cohort"
    return 0
  | .error .mistake => do
    IO.eprintln usageText
    return 2
  | .ok command =>
    let report ← Command.report readTextFile command
    IO.print report.output
    match report.error with
    | none => pure ()
    | some e => IO.eprintln ("Error: " ++ e.describe.text)
    return report.exitCode.toUInt32
