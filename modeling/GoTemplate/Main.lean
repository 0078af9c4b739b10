/-
  The program on the real disk.
-/
import GoTemplate.Command.Host

namespace GoTemplate

/-- Text as the terminal and the disk have it. -/
private def plain (t : Text) : String := String.ofList t

/-- Whether an action on the disk works. -/
private def works (act : IO Unit) : IO Bool := do
  match ← act.toBaseIO with
  | .ok () => return true
  | .error _ => return false

/-- The text of a file that can be read. -/
private def contentOf (path : Text) : IO (Option Text) := do
  match ← (IO.FS.readFile (plain path)).toBaseIO with
  | .ok s => return some s.toList
  | .error _ => return none

/-- Whether a path leads to a regular file. -/
private def leadsToFile (path : Text) : IO Bool := do
  let found : IO Bool := do
    return (← (← IO.FS.realPath (plain path)).metadata).type == .file
  match ← found.toBaseIO with
  | .ok file => return file
  | .error _ => return false

/-- The real disk and terminal. -/
def systemHost : Host IO where
  currentDir := return (← IO.currentDir).toString.toList
  isFile path := leadsToFile path
  readFile path := contentOf path
  createDirs path := works (IO.FS.createDirAll (plain path))
  writeFile path text := works (IO.FS.writeFile (plain path) (plain text))
  print t := IO.print (plain t)
  printError t := IO.eprint (plain t)

end GoTemplate

/-- The command line program. -/
def main (args : List String) : IO UInt32 := do
  return (← GoTemplate.Command.execute GoTemplate.systemHost (args.map String.toList)).toUInt32
