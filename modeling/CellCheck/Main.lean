import CellCheck.CommandLine.Run

/-!
# The program

The outer layer of the command line: it reads the files that a command names, runs the command and
writes what the run leaves.  Nothing is decided here.
-/

namespace CellCheck

def readContent (path : String) : IO FileContent := do
  try
    return some (← IO.FS.readBinFile path)
  catch _ =>
    return none

def readAll (paths : List String) : IO (List (String × FileContent)) :=
  paths.mapM fun path => return (path, ← readContent path)

/-- Write the output, the log and the failure of a run. -/
def writeOutcome (outcome : Outcome) : IO Unit := do
  for line in outcome.logs do
    IO.eprintln ("[" ++ line.level.print ++ " " ++ line.source ++ "] " ++ line.message)
  IO.print outcome.stdout
  if let some message := outcome.failure then
    IO.eprintln ("Error: " ++ message)

end CellCheck

open CellCheck in
def main (arguments : List String) : IO UInt32 := do
  match Command.ofArguments? arguments with
  | none =>
    IO.eprintln "usage: [--debug] parse|typecheck|subsumes|check ARGUMENTS"
    return 2
  | some command =>
    let contents ← readAll command.files
    let outcome := command.run fun path => (contents.lookup path).join
    writeOutcome outcome
    return outcome.exitCode.toUInt32
