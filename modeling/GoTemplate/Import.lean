/-
  Imports: what a declaration asks for, what it stands for, and the set a file ends up with.

  * an import is LAYOUT if the second-to-last segment of its path is `layout`: it then names the
    template's layout, and only its parent directory is imported;
  * an `ImportSet` keeps its specs in increasing order, each either merely declared or required;
    a file lists the required ones.
-/
import GoTemplate.Text

namespace GoTemplate

/-! ## One import -/

/-- An import declaration: an optional local name and the path between its double quotes. -/
structure Import where
  localName? : Option Text
  path : Text
deriving DecidableEq

/-- The directory that marks a layout. -/
def layoutSegment : Text := "layout".toList

/-- An import as an import block lists it. -/
def Import.spec (i : Import) : Text :=
  match i.localName? with
  | some name => name ++ ' ' :: i.path
  | none => i.path

/-- What an import contributes. -/
inductive ImportEffect where
  /-- The spec is required as it is. -/
  | plain (spec : Text)
  /-- The template's layout is named, and the spec of its directory required. -/
  | layout (name : Text) (sideImport : Text)
deriving DecidableEq

/-- Layout detection looks at the path without its quotes. -/
def Import.effect (i : Import) : ImportEffect :=
  let bare := trimQuotes i.path
  match cutLast? '/' bare with
  | some (parent, _) =>
    if afterLast '/' parent = layoutSegment then
      .layout bare (Import.spec { i with path := '"' :: (parent ++ ['"']) })
    else .plain i.spec
  | none => .plain i.spec

/-! ## The set of imports of a file -/

/-- Import specs in increasing order, each with whether the file needs it. -/
structure ImportSet where
  entries : List (Text × Bool) := []
deriving DecidableEq

namespace ImportSet

/-- Put a spec in its place; `f` gives its new mark from the one it had, if it was there. -/
def update (spec : Text) (f : Option Bool → Bool) : List (Text × Bool) → List (Text × Bool)
  | [] => [(spec, f none)]
  | (s, b) :: es =>
    if spec = s then (s, f (some b)) :: es
    else if spec < s then (spec, f none) :: (s, b) :: es
    else (s, b) :: update spec f es

/-- Make a spec known without requiring it; a required one stays required. -/
def declare (set : ImportSet) (spec : Text) : ImportSet :=
  ⟨update spec (·.getD false) set.entries⟩

/-- Require a spec. -/
def require (set : ImportSet) (spec : Text) : ImportSet :=
  ⟨update spec (fun _ => true) set.entries⟩

/-- The required specs, in increasing order. -/
def required (set : ImportSet) : List Text := (set.entries.filter (·.2)).map (·.1)

end ImportSet

example : (Import.mk (some "l".toList) "\"app/layout/main\"".toList).effect
    = .layout "app/layout/main".toList "l \"app/layout\"".toList := by decide
example : (Import.mk none "\"layout\"".toList).effect = .plain "\"layout\"".toList := by decide
example : (((ImportSet.mk []).require "b".toList).declare "c".toList |>.require "a".toList).required
    = ["a".toList, "b".toList] := by decide

end GoTemplate
