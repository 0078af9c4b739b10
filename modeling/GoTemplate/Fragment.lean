/-
  Fragments of the generated body.

  The walk over a template leaves a sequence of pieces of three kinds.  A `Buffer` keeps them in
  order and glues neighbours of one kind together, so that a run of markup becomes ONE write.
  `flatten` is the body's text: a literal without its trailing newlines as one write statement (or
  nothing, if only newlines were in it), a control statement with a newline, an expression as it
  is, because its framing brings its own newline.
-/
import GoTemplate.Text
import GoTemplate.Go.Literal

namespace GoTemplate

/-- What a fragment is. -/
inductive FragmentKind where
  | literal
  | control
  | expression
deriving DecidableEq, Repr

/-- A piece of the body. -/
structure Fragment where
  kind : FragmentKind
  value : Text
deriving DecidableEq

/-- Fragments in order; a buffer built by `push` has no two neighbours of one kind. -/
abbrev Buffer := List Fragment

/-- The start of a write statement. -/
def writeCall : Text := "_buffer.WriteString(".toList

/-- The text a fragment contributes to the body. -/
def Fragment.render (f : Fragment) : Text :=
  match f.kind with
  | .literal =>
    match dropEndWhile (· == '\n') f.value with
    | [] => []
    | t => writeCall ++ Go.quote t ++ ")\n".toList
  | .control => f.value ++ ['\n']
  | .expression => f.value

namespace Buffer

/-- Add a piece at the end, into the last fragment if that is of the same kind. -/
def push : Buffer → FragmentKind → Text → Buffer
  | [], k, v => [⟨k, v⟩]
  | [f], k, v => if f.kind = k then [⟨k, f.value ++ v⟩] else [f, ⟨k, v⟩]
  | f :: g :: b, k, v => f :: push (g :: b) k v

/-- The body's text. -/
def flatten (b : Buffer) : Text := b.flatMap Fragment.render

end Buffer

example : Buffer.flatten (Buffer.push (Buffer.push [] .literal "<p>".toList) .literal "hi\n\n".toList)
    = "_buffer.WriteString(\"<p>hi\")\n".toList := by decide

end GoTemplate
