import AccessPolicy.CommandLine

/-!
# The program

Reads the file of a command and shows the outcome.
-/

namespace AccessPolicy

/-- The text of a file, if it can be read. -/
def readFile? (file : String) : IO (Option String) := do
  try
    return some (← IO.FS.readFile file)
  catch _ =>
    return none

/-- The outcome of some arguments. -/
def outcomeOf (arguments : List String) : IO Command.Outcome := do
  match Command.ofArguments? arguments with
  | some command => return command.run (← readFile? command.file)
  | none => return Command.usage

end AccessPolicy

/-- Runs the command that the arguments spell. -/
def main (arguments : List String) : IO UInt32 := do
  let outcome ← AccessPolicy.outcomeOf arguments
  IO.print outcome.output
  IO.eprint outcome.errors
  return outcome.exitCode.toUInt32
