/-
  The configuration file.

  Two sections count: `compile` with the flags of a compilation, `output` with the directory for
  generated files.  Unknown keys are passed over, known ones must have the right type; the package
  must be a Go identifier.  A section is a table, or the array of all its values in order, or a date
  or time, which says nothing.
-/
import GoTemplate.Text
import GoTemplate.Text.Letter
import GoTemplate.Options
import GoTemplate.Toml.Limits
import GoTemplate.Toml.Reader

namespace GoTemplate

/-- What a configuration says. -/
structure Config where
  /-- The key `htmlEscape` is there, with whatever value. -/
  htmlEscape : Bool := false
  /-- The key `NameNotChange` is there, with whatever value. -/
  nameNotChange : Bool := false
  namespacePath : Option Text := none
  package : Option Text := none
  /-- The directory for generated files. -/
  outputDir : Option Text := none
deriving DecidableEq

/-- Why a text is no configuration. -/
inductive ConfigFault where
  /-- It is no TOML, or a value has the wrong type. -/
  | unreadable
  /-- The package is no Go identifier. -/
  | badPackage (name : Text)
deriving DecidableEq

/-- A Go identifier: a letter or underscore, then letters, numbers and underscores, of any script. -/
def isGoIdentifier : Text → Bool
  | [] => false
  | c :: t => (isLetter c || c == '_') && t.all fun c => isLetterOrNumber c || c == '_'

namespace Config

open Toml (Value Table)

/-- The entries of a section whose keys are `keys`; those of any other key can be passed over. -/
def entries? (keys : List Text) : Option Value → Option Table
  | none | some (.dateTime _) => some []
  | some (.table _ entries) =>
    if entries.all fun (.mk key v) => keys.contains key || v.isSkippable then some entries else none
  | some (.array _ items) =>
    if keys.length ≤ items.length then some (keys.zipWith Toml.Entry.mk items) else none
  | some _ => none

/-- A key whose value is a string. -/
def string? (key : Text) (t : Table) : Option (Option Text) :=
  match t.find? key with
  | none => some none
  | some (.string s) => some (some s)
  | some _ => none

/-- A key whose value may be anything that can be kept. -/
def present? (key : Text) (t : Table) : Option Bool :=
  match t.find? key with
  | none => some false
  | some v => if v.isKeepable then some true else none

/-- The configuration in a document. -/
def ofTable? (t : Table) : Option Config := do
  let sections ← entries? ["compile".toList, "output".toList] (some (.table .header t))
  let compile ← entries? ["htmlEscape".toList, "NameNotChange".toList, "namespace".toList,
    "package".toList] (sections.find? "compile".toList)
  let output ← entries? ["dir".toList] (sections.find? "output".toList)
  return {
    htmlEscape := ← present? "htmlEscape".toList compile
    nameNotChange := ← present? "NameNotChange".toList compile
    namespacePath := ← string? "namespace".toList compile
    package := ← string? "package".toList compile
    outputDir := ← string? "dir".toList output }

/-- The configuration that a text spells. -/
def ofText (t : Text) : Except ConfigFault Config :=
  match (Toml.parse? t).bind ofTable? with
  | none => .error .unreadable
  | some c =>
    match c.package with
    | some name => if isGoIdentifier name then .ok c else .error (.badPackage name)
    | none => .ok c

/-- The flags of a configuration. -/
def flags (c : Config) : List Flag :=
  (if c.htmlEscape then [("htmlEscape".toList, none)] else [])
    ++ (if c.nameNotChange then [("NameNotChange".toList, none)] else [])
    ++ (c.namespacePath.map fun path => ("namespace".toList, some path)).toList
    ++ (c.package.map fun name => ("package".toList, some name)).toList

/-- The options of a configuration. -/
def options (c : Config) : Options := Options.ofFlags c.flags

end Config

/-- A fault in words, if there is something to say about it. -/
def ConfigFault.message? : ConfigFault → Option Text
  | .unreadable => none
  | .badPackage name =>
    some ("compile.package \"".toList ++ name ++ "\" is not a valid Go package name".toList)

example : (Config.ofText "[compile]\nhtmlEscape = false\npackage = \"x²\"\n".toList).toOption
    = some { htmlEscape := true, package := some "x²".toList } := by decide +kernel

end GoTemplate
