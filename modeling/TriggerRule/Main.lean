import TriggerRule.Command

/-!
# The program

Runs the command that the arguments ask for.
-/

open TriggerRule in
/-- Prints what the command prints and exits with its code. -/
def main (arguments : List String) : IO UInt32 := do
  let outcome := Command.runArguments arguments
  IO.print outcome.stdout
  IO.eprint outcome.stderr
  return outcome.exitCode.toUInt32
