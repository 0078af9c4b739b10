/-
  A draft: what the walk over a template has produced so far.

  * `Draft.register` takes in one declaration of the first node;
  * `Draft.interpolate` adds one token of an expression in its frame.  The frame is a write call
    around the whole expression and, with escaping on, a wrapper inside it: the escape call, or a
    plain parenthesis where the expression must not be escaped.  An expression inside another has
    no frame of its own; one that holds markup or control nodes has no wrapper.
-/
import GoTemplate.Text
import GoTemplate.Error
import GoTemplate.Fragment
import GoTemplate.Import
import GoTemplate.Declaration
import GoTemplate.Template.Node
import GoTemplate.Job

namespace GoTemplate

/-- The state of a walk. -/
structure Draft where
  parts : Buffer := []
  params : List Param := []
  imports : ImportSet := {}
  layout : Option Text := none
  /-- Some node other than a program has been met. -/
  firstNodeSeen : Bool := false
deriving DecidableEq

/-- The draft a job starts from: the escape package is known and not yet required. -/
def Draft.start (job : Job) : Draft :=
  { imports := ({} : ImportSet).declare job.options.namespacePath }

/-- A walk that failed: why, and the draft it had reached. -/
structure Halt where
  error : CompileError
  draft : Draft
deriving DecidableEq

/-- How a walk ends. -/
abbrev Outcome := Except Halt Draft

/-- One more piece of the body. -/
def Draft.push (d : Draft) (kind : FragmentKind) (value : Text) : Draft :=
  { d with parts := Buffer.push d.parts kind value }

/-! ## Declarations -/

/-- Take in one declaration; a second layout is refused. -/
def Draft.register (template : Text) (d : Draft) : Declaration → Outcome
  | .param p => .ok { d with params := d.params ++ [p] }
  | .importing i =>
    match i.effect with
    | .plain spec => .ok { d with imports := d.imports.require spec }
    | .layout name sideImport =>
      match d.layout with
      | some first => .error ⟨⟨template, .duplicateLayout first name⟩, d⟩
      | none => .ok { d with layout := some name, imports := d.imports.require sideImport }

/-- Take in a list of declarations, up to the first that is refused. -/
def Draft.registerAll (template : Text) (d : Draft) : List Declaration → Outcome
  | [] => .ok d
  | decl :: rest => (d.register template decl).bind fun d' => d'.registerAll template rest

/-- Take in the declarations that a text spells out. -/
def Draft.declare (template : Text) (d : Draft) (text : Text) : Outcome :=
  match parseDeclarations text with
  | .error e => .error ⟨⟨template, .declaration e.line e.text⟩, d⟩
  | .ok decls => d.registerAll template decls

/-! ## Expressions -/

/-- The word that stands for nothing in the output. -/
def rawKeyword : Text := "raw".toList

/-- Expressions that start with one of these are not escaped. -/
def bypassKeywords : List Text := ["helper".toList, "html".toList, rawKeyword]

/-- Whether an expression with this first value is escaped: not after a bypass keyword and, in a
    layout directory, not if it is one of the parameters. -/
def needsEscape (value dir : Text) (params : List Param) : Bool :=
  if value ∈ bypassKeywords then false
  else if dir = layoutSegment then !params.any (·.name == value)
  else true

/-- The place of a token in its expression. -/
structure Slot where
  /-- Its position among all children, from zero. -/
  index : Nat
  /-- The number of children. -/
  count : Nat
  /-- Every node in the expression is an expression. -/
  homogeneous : Bool
  /-- The expression stands directly inside another. -/
  nested : Bool
deriving DecidableEq

/-- The slot opens the frame. -/
def Slot.isFirst (s : Slot) : Bool := s.index == 0

/-- The slot closes the frame. -/
def Slot.isLast (s : Slot) : Bool := s.index + 1 == s.count

/-- The slot belongs to an expression with a wrapper inside its frame. -/
def Slot.isWrapped (s : Slot) (o : Options) : Bool := o.escape && !s.nested && s.homogeneous

/-- The slot opens the escape call. -/
def Slot.escapes (s : Slot) (job : Job) (params : List Param) (value : Text) : Bool :=
  s.isWrapped job.options && s.isFirst && needsEscape value job.dir params

/-- What precedes the value: the write call and the wrapper's opening. -/
def Slot.opening (s : Slot) (job : Job) (params : List Param) (value : Text) : Text :=
  (if !s.nested && s.isFirst then writeCall else [])
    ++ (if s.escapes job params value then job.options.escapeCall
        else if s.isWrapped job.options && s.isFirst then ['('] else [])

/-- What follows the value: the wrapper's closing and the end of the statement. -/
def Slot.closing (s : Slot) (o : Options) : Text :=
  (if s.isWrapped o && s.isLast then [')'] else [])
    ++ (if !s.nested && s.isLast then ")\n".toList else [])

/-- A value as it is written, with `raw` left out. -/
def shownValue (value : Text) : Text := if value = rawKeyword then [] else value

/-- Add a token of an expression in its frame; the escape call requires its package. -/
def Draft.interpolate (job : Job) (token : Token) (slot : Slot) (d : Draft) : Draft :=
  let value := token.value
  let text := slot.opening job d.params value ++ shownValue value ++ slot.closing job.options
  let imports :=
    if slot.escapes job d.params value then d.imports.require job.options.namespacePath
    else d.imports
  { d.push .expression text with imports }

example : needsEscape "body".toList "layout".toList [⟨"body".toList, "string".toList⟩] = false := by
  decide
example : needsEscape "body".toList "home".toList [⟨"body".toList, "string".toList⟩] = true := by
  decide

end GoTemplate
