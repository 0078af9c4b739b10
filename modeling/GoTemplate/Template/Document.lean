/-
  A template document: a tree and the path of the template it was read from.
-/
import GoTemplate.Text
import GoTemplate.Template.Node

namespace GoTemplate

/-- A template with its path. -/
structure Document where
  path : Text
  root : Node

end GoTemplate
