/-
  The command itself.

  What it needs from its surroundings is a `Host`: files to read and write, a place to print.  The
  command is one program over any host, so it runs on a real disk and on one in memory.

  The order of what it looks at is fixed: the configuration, then the document, then the tree; the
  first failure ends it.  A compilation without a place for its output prints the source and
  nothing else.
-/
import GoTemplate.Text
import GoTemplate.Path
import GoTemplate.Config
import GoTemplate.Compile
import GoTemplate.Template.Reader
import GoTemplate.Template.Summary
import GoTemplate.Command.Arguments
import GoTemplate.Command.Report

namespace GoTemplate

/-- What the command needs from its surroundings.  Operations on files say whether they worked. -/
structure Host (m : Type → Type) where
  currentDir : m Text
  isFile : Text → m Bool
  readFile : Text → m (Option Text)
  createDirs : Text → m Bool
  writeFile : Text → Text → m Bool
  print : Text → m Unit
  printError : Text → m Unit

/-- Why a command fails: what was attempted, and the cause if there is more to say. -/
structure Failure where
  context : Text
  cause : Option Text := none
deriving DecidableEq

/-- A failure in words. -/
def Failure.message (f : Failure) : Text :=
  "Error: ".toList ++ f.context ++
    (match f.cause with
    | some cause => "\n\nCaused by:\n    ".toList ++ cause
    | none => []) ++ ['\n']

namespace Command

variable {m : Type → Type} [Monad m]

/-- Fail with what was attempted on what. -/
def failed {α : Type} (attempt : String) (what : Text) (cause : Option Text) : ExceptT Failure m α :=
  throw ⟨attempt.toList ++ ' ' :: what, cause⟩

/-! ## Configuration -/

/-- The name of a configuration file. -/
def configFile : Text := "gotpl.toml".toList

/-- A directory and those above it, in at most `n` steps. -/
def ancestors : Nat → Text → List Text
  | 0, _ => []
  | n + 1, dir => dir :: ((Path.parent? dir).map (ancestors n)).getD []

/-- The first of some paths that is a file. -/
def firstFile (host : Host m) : List Text → m (Option Text)
  | [] => return none
  | path :: rest => do
    if ← host.isFile path then return some path
    firstFile host rest

/-- The configuration in a file. -/
def loadConfig (host : Host m) (path : Text) : ExceptT Failure m Config := do
  match ← host.readFile path with
  | none => failed "failed to read" path none
  | some text => match Config.ofText text with
    | .ok config => return config
    | .error fault => failed "failed to parse" path fault.message?

/-- The configuration to use and the directory its paths are seen from: the one that was asked
    for, else the nearest above the current directory, else none. -/
def resolveConfig (host : Host m) (explicit : Option Text) : ExceptT Failure m (Text × Config) := do
  let cwd ← host.currentDir
  let candidates := (ancestors (cwd.length + 1) cwd).map fun dir => Path.join dir configFile
  let nearest : m (Option Text) := firstFile host candidates
  let found ← match explicit with
    | some path => pure (some path)
    | none => liftM nearest
  match found with
  | none => return (cwd, {})
  | some path => return ((Path.parent? path).getD cwd, ← loadConfig host path)

/-- Options with what the command line says. -/
def applyArgs (o : Options) (args : CompileArgs) : Options :=
  { escape := o.escape && !args.noEscape
    keepName := o.keepName || args.keepName
    package := args.package.getD o.package
    namespacePath := (args.namespacePath.map quoteImport).getD o.namespacePath }

/-! ## The two subcommands -/

/-- The document in a file. -/
def readDocument (host : Host m) (path : Text) : ExceptT Failure m Document := do
  match ← host.readFile path with
  | none => failed "failed to read" path none
  | some text => match Document.ofText text with
    | .ok doc => return doc
    | .error _ => failed "failed to parse template document" path none

/-- Write a compiled file, with a report. -/
def writeOutput (host : Host m) (doc : Document) (options : Options) (output : Output) (out : Text) :
    ExceptT Failure m Unit := do
  host.print (Report.banner "compile" ++ Report.arrow ("compiling ".toList ++ doc.path))
  match Path.parent? out with
  | none | some [] => pure ()
  | some dir => if !(← host.createDirs dir) then failed "failed to create" dir none
  if !(← host.writeFile out output.source) then failed "failed to write" out none
  host.print (Report.compiled output options ++ Report.written out output.source)

/-- Compile a document. -/
def runCompile (host : Host m) (args : CompileArgs) : ExceptT Failure m Unit := do
  let (base, config) ← resolveConfig host args.config
  let options := applyArgs config.options args
  let doc ← readDocument host args.document
  match GoTemplate.compile doc options with
  | .error e => failed "failed to compile" doc.path (some e.message)
  | .ok output =>
    match Path.resolveOutput args.out config.outputDir base doc.path with
    | none => host.print output.source
    | some out => writeOutput host doc options output out

/-- Inspect a document. -/
def runInspect (host : Host m) (document : Text) : ExceptT Failure m Unit := do
  let doc ← readDocument host document
  host.print (Report.inspected doc.path doc.root.summary)

/-- Run a command. -/
def run (host : Host m) : Command → ExceptT Failure m Unit
  | .compile args => runCompile host args
  | .inspect document => runInspect host document
  | .help => host.print Report.usage

/-- The whole program: its exit status is 0, 1 after a failure, 2 for a refused command line. -/
def execute (host : Host m) (args : List Text) : m Nat := do
  match ofArgs? args with
  | none =>
    host.printError Report.usage
    return 2
  | some command =>
    match ← (run host command).run with
    | .ok () => return 0
    | .error f =>
      host.printError f.message
      return 1

end Command

end GoTemplate
