import RecordFilter.CommandLine.Report

/-!
# The program

Shows how a filter is taken apart: its groups as a table or as JSON.
-/

open RecordFilter.CommandLine

/-- The text of a file, if it can be read. -/
def readText (path : String) : IO (Option String) := do
  try return some (← IO.FS.readFile path) catch _ => return none

/-- The report on the arguments, for which the file with the settings is read. -/
def reportOn (arguments : List String) : IO Report := do
  match Arguments.ofList arguments with
  | .error stop => return stop.report
  | .ok arguments =>
    let settings ←
      match arguments.config with
      | some path => readText path
      | none => pure none
    return arguments.report settings

/-- Writes the report on the arguments. -/
def main (arguments : List String) : IO UInt32 := do
  let report ← reportOn arguments
  IO.print report.output
  IO.eprint report.errors
  return report.code.toUInt32
