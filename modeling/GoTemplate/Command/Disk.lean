/-
  A disk in memory, as a host for the command.

  Files and directories are named by the segments of their absolute paths.  A path is followed
  segment by segment: each step is taken from a directory that exists, `..` goes up, and a slash at
  the end asks for a directory.
-/
import GoTemplate.Text
import GoTemplate.Path
import GoTemplate.Command.Host

namespace GoTemplate

/-- Where a file or directory is: the segments from the root down. -/
abbrev Location := List Text

/-- A disk, the directory we are in, and what has been printed. -/
structure Disk where
  files : List (Location × Text) := []
  /-- Directories other than the root. -/
  dirs : List Location := []
  cwd : Location := []
  output : Text := []
  errors : Text := []
deriving DecidableEq

namespace Disk

/-- A directory that exists. -/
def isDir (d : Disk) (l : Location) : Bool := l.isEmpty || d.dirs.contains l

/-- The content of a file. -/
def content? (d : Disk) (l : Location) : Option Text := d.files.lookup l

/-- The path of a location. -/
def pathOf (l : Location) : Text := '/' :: ['/'].intercalate l

/-- The location one segment further. -/
def enter (l : Location) (segment : Text) : Location :=
  if Path.isSkipped segment then l
  else if segment = "..".toList then l.dropLast
  else l ++ [segment]

/-- Follow segments; every step starts in a directory that exists. -/
def follow (d : Disk) (l : Location) : List Text → Option Location
  | [] => some l
  | s :: rest => if d.isDir l then d.follow (enter l s) rest else none

/-- Where a path leads; the empty path leads nowhere. -/
def locate (d : Disk) (path : Text) : Option Location :=
  if path.isEmpty then none
  else d.follow (if Path.isAbsolute path then [] else d.cwd) (Path.segments path)

/-- Make a directory if there is nothing. -/
def addDir (d : Disk) (l : Location) : Option Disk :=
  if d.isDir l then some d
  else if (d.content? l).isSome then none
  else some { d with dirs := l :: d.dirs }

/-- Follow segments and make the directories that are missing. -/
def makeDirs (d : Disk) (l : Location) : List Text → Option Disk
  | [] => some d
  | s :: rest => (d.addDir (enter l s)).bind fun d => d.makeDirs (enter l s) rest

/-- A disk with a file in place, its directories included. -/
def put (d : Disk) (l : Location) (text : Text) : Disk :=
  let d := (d.makeDirs [] l.dropLast).getD d
  { d with files := (l, text) :: d.files.filter (·.1 != l) }

/-- Write a file into a directory that exists. -/
def write (d : Disk) (path text : Text) : Option Disk :=
  (d.locate path).bind fun l =>
    if d.isDir l then none
    else some { d with files := (l, text) :: d.files.filter (·.1 != l) }

/-- Change the disk if that is possible, and say whether it was. -/
def attempt (f : Disk → Option Disk) : StateM Disk Bool := fun d =>
  match f d with
  | some d' => (true, d')
  | none => (false, d)

/-- The disk as a host. -/
def host : Host (StateM Disk) where
  currentDir := return pathOf (← get).cwd
  isFile path := return (((← get).locate path).bind (← get).content?).isSome
  readFile path := return ((← get).locate path).bind (← get).content?
  createDirs path := attempt fun d =>
    d.makeDirs (if Path.isAbsolute path then [] else d.cwd) (Path.segments path)
  writeFile path text := attempt fun d => d.write path text
  print t := modify fun d => { d with output := d.output ++ t }
  printError t := modify fun d => { d with errors := d.errors ++ t }

/-- Run the program on the disk: its exit status, and the disk it leaves. -/
def execute (d : Disk) (args : List Text) : Nat × Disk := (Command.execute host args).run d

end Disk

end GoTemplate
