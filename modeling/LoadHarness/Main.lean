import LoadHarness.Cli.Program

/-!
# The executable

Runs the command line on the process arguments, writes what it printed to
standard output and standard error, and exits with its status.
-/

/-- Run `loadgen` on the process arguments. -/
def main (args : List String) : IO UInt32 := do
  let outcome := LoadHarness.Cli.run args
  let out ← IO.getStdout
  out.putStr outcome.stdout
  out.flush
  let err ← IO.getStderr
  err.putStr outcome.stderr
  err.flush
  pure outcome.exitCode.toUInt32
