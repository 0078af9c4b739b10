/-
  From a template document to a Go file.

  The walk gives the body and the declarations; block regions go, section regions become
  functions; the file is put together.
-/
import GoTemplate.Text
import GoTemplate.Region
import GoTemplate.Template.Document
import GoTemplate.Walk
import GoTemplate.Go.File

namespace GoTemplate

/-- The import of the package that holds the buffer. -/
def bytesImport : Text := "\"bytes\"".toList

/-- The file for a finished draft, its body and its sections. -/
def Job.file (job : Job) (d : Draft) (body : Text) (sections : List Section) : Go.File :=
  { package := job.options.package
    imports := (d.imports.require bytesImport).required
    function := job.name
    params := d.params
    body, sections }

/-- What a compilation yields: the file, and the layout the template asks for. -/
structure Output where
  file : Go.File
  layout : Option Text
deriving DecidableEq

/-- The text of the generated file. -/
def Output.source (o : Output) : Text := o.file.render

/-- Compile a tree for a job. -/
def Job.compile (job : Job) (root : Node) : Except CompileError Output :=
  match job.visit none root (Draft.start job) with
  | .error h => .error h.error
  | .ok d => do
    let stripped ← stripBlocks job.template d.parts.flatten
    let (body, sections) ← extractSections job.template stripped
    return { file := job.file d body sections, layout := d.layout }

/-- Compile a document. -/
def compile (doc : Document) (options : Options) : Except CompileError Output :=
  (Job.ofPath doc.path options).compile doc.root

end GoTemplate
