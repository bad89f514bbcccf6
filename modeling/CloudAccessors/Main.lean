import CloudAccessors.CommandLine.Run

/-!
# The program
-/

open CloudAccessors.CommandLine in
/-- Prints what the run with the arguments of the command line prints, and exits with its code. -/
def main (args : List String) : IO UInt32 := do
  let report := run args
  IO.print report.stdout
  report.log.forM fun entry => IO.eprint entry.line
  IO.eprint report.stderr
  return report.exitCode.toUInt32
