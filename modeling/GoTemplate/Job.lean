/-
  A job: one template to compile, with its options and the names taken from its path.
-/
import GoTemplate.Text
import GoTemplate.Text.Upper
import GoTemplate.Path
import GoTemplate.Options

namespace GoTemplate

/-- What stays fixed while a template is compiled. -/
structure Job where
  options : Options
  /-- The template's path, as errors name it. -/
  template : Text
  /-- The name of the directory the template lies in, empty if there is none. -/
  dir : Text
  /-- The name of the generated function. -/
  name : Text
deriving DecidableEq

/-- The job for a template path: the function is named after the stem. -/
def Job.ofPath (template : Text) (options : Options) : Job :=
  let stem := Path.functionStem template
  { options, template
    dir := ((Path.parent? template).bind Path.fileName?).getD []
    name := if options.keepName then stem else capitalize stem }

example : (Job.ofPath "views/layout/base.gohtml".toList {}).dir = "layout".toList := by decide +kernel
example : (Job.ofPath "views/layout/base.gohtml".toList {}).name = "Base".toList := by decide +kernel

end GoTemplate
