/-
  Why a compilation fails, and the one place where it is put into words.
-/
import GoTemplate.Text
import GoTemplate.Text.Numeral
import GoTemplate.Text.Quoted

namespace GoTemplate

/-- The two kinds of regions of a body. -/
inductive RegionKind where
  | blocks
  | sections
deriving DecidableEq, Repr

/-- The word that opens a region. -/
def RegionKind.keyword : RegionKind → Text
  | .blocks => "block".toList
  | .sections => "section".toList

/-- What went wrong. -/
inductive Cause where
  /-- A line of the first node is no declaration. -/
  | declaration (line : Nat) (text : Text)
  /-- A second layout is imported. -/
  | duplicateLayout (first second : Text)
  /-- A region is open at the end of the body. -/
  | unbalancedRegion (kind : RegionKind) (name : Text) (line : Nat)
  /-- A section header has no name. -/
  | emptySectionName (line : Nat)
  /-- Two sections have one name. -/
  | duplicateSection (name : Text)
deriving DecidableEq

/-- A failed compilation of a template. -/
structure CompileError where
  template : Text
  cause : Cause
deriving DecidableEq

/-- A cause in words. -/
def Cause.message : Cause → Text
  | .declaration line text =>
    "invalid declaration at line ".toList ++ decimal line ++ " of first node: ".toList ++ quoted text
  | .duplicateLayout first second =>
    "layout already set to ".toList ++ first ++ ", cannot also use ".toList ++ second
  | .unbalancedRegion kind name line =>
    kind.keyword ++ (if name.isEmpty then [] else " \"".toList ++ name ++ ['"'])
      ++ " opened at body line ".toList ++ decimal line ++ " is never closed".toList
  | .emptySectionName line =>
    "section at body line ".toList ++ decimal line ++ " has no name".toList
  | .duplicateSection name => "section \"".toList ++ name ++ "\" is defined more than once".toList

/-- The message names the template first. -/
def CompileError.message (e : CompileError) : Text := e.template ++ ": ".toList ++ e.cause.message

example : (CompileError.mk "a.gohtml".toList (.unbalancedRegion .blocks [] 1)).message
    = "a.gohtml: block opened at body line 1 is never closed".toList := by decide

end GoTemplate
