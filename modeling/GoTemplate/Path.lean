/-
  Slash-separated paths.

  A path is text; empty segments and `.` segments are passed over, `..` is a segment like any
  other but never a file name, and a leading slash makes a path absolute.  Nothing here looks at
  a disk: `a/../b` stays what it is.

  The name of a template is its STEM, the file name without `.gohtml` or else without its last
  extension.  The generated function takes it from the path, the generated file from the file name
  alone, and there a path without a file name stands for one.
-/
import GoTemplate.Text

namespace GoTemplate.Path

/-! ## Segments -/

/-- The pieces between the slashes, empty ones included. -/
def segments (p : Text) : List Text := p.splitOn '/'

/-- An empty segment or a `.` leads nowhere. -/
def isSkipped (s : Text) : Bool := s.isEmpty || s == ['.']

/-- Segments without those at the end that lead nowhere. -/
def settled (ss : List Text) : List Text := (ss.reverse.dropWhile isSkipped).reverse

/-- A path that starts at the root. -/
def isAbsolute (p : Text) : Bool := p.head? == some '/'

/-! ## File name, stem, parent -/

/-- The last segment that leads somewhere, unless it is `..`. -/
def fileName? (p : Text) : Option Text :=
  match (settled (segments p)).getLast? with
  | none => none
  | some s => if s = "..".toList then none else some s

/-- A file name without its last extension; a leading dot starts no extension. -/
def withoutExtension (file : Text) : Text :=
  match cutLast? '.' file with
  | none | some ([], _) => file
  | some (stem, _) => stem

/-- The file name of a path without its last extension. -/
def fileStem? (p : Text) : Option Text := (fileName? p).map withoutExtension

/-- The path without its last segment: none for the empty path and for the root.  A leading `.`
    counts as a segment, so the parent of `./a` is `.` and the parent of `.` is empty. -/
def parent? (p : Text) : Option Text :=
  match segments p with
  | [] | [[]] => none
  | [] :: body =>
    match settled body with
    | [] => none
    | ss => some ('/' :: ['/'].intercalate (settled ss.dropLast))
  | ['.'] :: body =>
    match settled body with
    | [] => some []
    | ss => some (['/'].intercalate (['.'] :: settled ss.dropLast))
  | body => some (['/'].intercalate (settled (settled body).dropLast))

/-- `p` seen from `base`: an absolute `p` stands for itself. -/
def join (base p : Text) : Text :=
  if isAbsolute p then p
  else if base.isEmpty || base.getLast? == some '/' then base ++ p
  else base ++ '/' :: p

/-! ## Templates -/

/-- The extension of a template file. -/
def templateExtension : Text := ".gohtml".toList

/-- What the function generated for a template is named after: empty without a file name. -/
def functionStem (template : Text) : Text :=
  let file := (fileName? template).getD []
  (before? templateExtension file).getD ((fileStem? template).getD file)

/-- The name of the file generated for a template. -/
def outputFileName (template : Text) : Text :=
  let file := (fileName? template).getD template
  (before? templateExtension file).getD ((fileStem? file).getD file) ++ ".go".toList

/-- Where the generated file goes: to `out` if that is given, else into `dir` seen from `base`,
    else nowhere. -/
def resolveOutput (out dir : Option Text) (base template : Text) : Option Text :=
  out <|> dir.map fun d => join (join base d) (outputFileName template)

example : parent? "./a//b/.".toList = some "./a".toList := by decide
example : parent? "/a".toList = some "/".toList := by decide
example : fileName? "views/home/page.gohtml/.".toList = some "page.gohtml".toList := by decide
example : outputFileName "views/.card.html".toList = ".card.go".toList := by decide

end GoTemplate.Path
