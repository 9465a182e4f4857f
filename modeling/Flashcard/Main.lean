import Flashcard.Tool.Run

/-!
# The command line

Runs the preview tool on the files and the environment of the process.
-/

namespace Flashcard.Tool

/-- Whether an action succeeds. -/
def succeeds (action : IO Unit) : IO Bool := do
  match ← action.toBaseIO with
  | .ok _ => return true
  | .error _ => return false

/-- The host that the process runs on. -/
def processHost : Host IO where
  read path := do return (← (IO.FS.readBinFile path).toBaseIO).toOption
  makeDirectories path := succeeds (IO.FS.createDirAll path)
  write path content := succeeds (IO.FS.writeFile path content)
  lookup name := IO.getEnv name

end Flashcard.Tool

open Flashcard.Tool in
def main (arguments : List String) : IO UInt32 := do
  let report ← execute processHost arguments
  match report with
  | .success lines => lines.forM fun line => IO.println line
  | .failure error => IO.eprintln ("Error: " ++ error.message)
  | .misuse error => IO.eprintln ("error: " ++ error.message)
  return report.exitCode
