/-
  Options of a compilation and the flags they are made from.

  A flag is a key with or without a value.  `htmlEscape` and `NameNotChange` count by their mere
  presence, whatever their value; `namespace` and `package` count only with a value; any other
  key is passed over.  Later flags win.
-/
import GoTemplate.Text

namespace GoTemplate

/-- An import path between double quotes, whatever blanks and quotes surrounded it. -/
def quoteImport (path : Text) : Text := '"' :: (trimQuotes (trim path) ++ ['"'])

/-- What a compilation can be told. -/
structure Options where
  /-- Wrap interpolations in the escape call. -/
  escape : Bool := true
  /-- Keep the stem as the function's name instead of capitalising it. -/
  keepName : Bool := false
  /-- The quoted import path of the package with the escape function. -/
  namespacePath : Text := "\"github.com/codinl/gotpl/gotpl\"".toList
  /-- The package of the generated file. -/
  package : Text := "tpl".toList
deriving DecidableEq

/-- A flag: a key, and a value if one was given. -/
abbrev Flag := Text × Option Text

namespace Options

/-- One flag applied. -/
def apply (o : Options) : Flag → Options
  | (key, value?) =>
    if key = "htmlEscape".toList then { o with escape := false }
    else if key = "NameNotChange".toList then { o with keepName := true }
    else if key = "namespace".toList then
      match value? with
      | some path => { o with namespacePath := quoteImport path }
      | none => o
    else if key = "package".toList then
      match value? with
      | some name => { o with package := name }
      | none => o
    else o

/-- Options from flags, first to last. -/
def ofFlags (flags : List Flag) : Options := flags.foldl apply {}

/-- The name by which the escape package is called: the last segment of its path. -/
def namespaceIdent (o : Options) : Text := afterLast '/' (trimQuotes o.namespacePath)

/-- The start of a call of the escape function. -/
def escapeCall (o : Options) : Text := o.namespaceIdent ++ ".HTMLEscape(".toList

end Options

example : ({} : Options).escapeCall = "gotpl.HTMLEscape(".toList := by decide
example : (Options.ofFlags [("htmlEscape".toList, some "false".toList)]).escape = false := by decide

end GoTemplate
