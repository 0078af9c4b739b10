/-
  The generated Go file.

  A package clause, an import block, the template's function with a buffer that the body writes
  to, and one function per section.  The body is indented by one tab, except for empty lines and
  for lines that begin inside a raw string: a tab there would change the string.
-/
import GoTemplate.Text
import GoTemplate.Go.Literal
import GoTemplate.Go.Scan
import GoTemplate.Declaration
import GoTemplate.Region

namespace GoTemplate.Go

/-! ## Indentation -/

/-- Lines indented by a tab, where the first of them begins inside a raw string or not. -/
def indentLines (inRaw : Bool) : List Text → Text
  | [] => []
  | line :: rest =>
    (if inRaw || line.isEmpty then line else '\t' :: line) ++ '\n'
      :: indentLines (endsInRaw (if inRaw then .raw else .code) line) rest

/-- The body as it stands in its function. -/
def indentBody (body : Text) : Text := indentLines false (lines body)

/-! ## The file -/

/-- A generated file. -/
structure File where
  package : Text
  imports : List Text
  function : Text
  params : List Param
  body : Text
  sections : List Section
deriving DecidableEq

/-- The parameters of the function, as its signature lists them. -/
def File.signature (f : File) : Text := ", ".toList.intercalate (f.params.map Param.render)

/-- A section as a function that returns its text. -/
def renderSection (s : Section) : Text :=
  "\nfunc ".toList ++ s.name ++ "() string \x7b\n\treturn ".toList ++ rawString s.body
    ++ "\n\x7d\n".toList

/-- The text of the file. -/
def File.render (f : File) : Text :=
  "package ".toList ++ f.package ++ "\n\nimport (\n".toList
    ++ f.imports.flatMap (fun spec => '\t' :: (spec ++ ['\n'])) ++ ")\n\n".toList
    ++ "func ".toList ++ f.function ++ '(' :: f.signature ++ ") string \x7b\n".toList
    ++ "\tvar _buffer bytes.Buffer\n".toList ++ indentBody f.body
    ++ "\treturn _buffer.String()\n\x7d\n".toList ++ f.sections.flatMap renderSection

example : indentBody "s := `a\nb`\n\nx".toList = "\ts := `a\nb`\n\n\tx\n".toList := by decide +kernel

end GoTemplate.Go
