/-
  Regions of a body: stretches of lines from a header `block NAME {` or `section NAME {` to the
  line that closes it.

  Inside a region a line that starts with a closing brace goes one level up and, if the region is
  still open, a line that ends with an opening brace goes one level down; the region closes on the
  line that reaches level zero.  Only blanks around a line are ignored, nothing else is read.

  * `stripBlocks` removes block regions, headers and closing lines included;
  * `extractSections` removes section regions and returns their contents with their names.

  Both keep every other line byte for byte and fail at the first fault in line order.
-/
import GoTemplate.Text
import GoTemplate.Text.Upper
import GoTemplate.Error

namespace GoTemplate

/-! ## Headers and levels -/

/-- The name in a header line: the keyword, the name after a blank (or nothing), a brace. -/
def header? (keyword line : Text) : Option Text :=
  match (after? keyword line).bind (before? ['\x7b']) with
  | none => none
  | some [] => some []
  | some (c :: inner) => if isBlank c then some (trim (c :: inner)) else none

/-- A region that has been opened on line `line`; its level is at least one. -/
structure OpenRegion where
  name : Text
  line : Nat
  level : Nat
deriving DecidableEq

/-- The region after one more line, `none` if that line closes it. -/
def OpenRegion.next? (r : OpenRegion) (trimmed : Text) : Option OpenRegion :=
  let inner := if trimmed.getLast? = some '\x7b' then 1 else 0
  if trimmed.head? = some '\x7d' then
    if r.level ≤ 1 then none else some { r with level := r.level - 1 + inner }
  else some { r with level := r.level + inner }

/-- The error for a region that is still open at the end. -/
def OpenRegion.unbalanced (r : OpenRegion) (template : Text) (kind : RegionKind) : CompileError :=
  ⟨template, .unbalancedRegion kind r.name r.line⟩

/-! ## Blocks -/

/-- Strip block regions from lines, the first of them with number `n`. -/
def stripSpans (template : Text) (n : Nat) (open? : Option OpenRegion) :
    List Text → Except CompileError Text
  | [] => match open? with
    | none => .ok []
    | some r => .error (r.unbalanced template .blocks)
  | span :: rest => match open? with
    | some r => stripSpans template (n + 1) (r.next? (trim span)) rest
    | none => match header? RegionKind.blocks.keyword (trim span) with
      | some name => stripSpans template (n + 1) (some ⟨name, n, 1⟩) rest
      | none => (stripSpans template (n + 1) none rest).map (span ++ ·)

/-- The body without its block regions. -/
def stripBlocks (template body : Text) : Except CompileError Text :=
  stripSpans template 1 none (lineSpans body)

/-! ## Sections -/

/-- A section: the name of its function and the text it returns. -/
structure Section where
  name : Text
  body : Text
deriving DecidableEq

/-- Lift section regions out of lines, the first of them with number `n`.  `seen` are the names
    of the sections closed so far; an open region comes with its content so far. -/
def liftSpans (template : Text) (n : Nat) (seen : List Text) (open? : Option (OpenRegion × Text)) :
    List Text → Except CompileError (Text × List Section)
  | [] => match open? with
    | none => .ok ([], [])
    | some (r, _) => .error (r.unbalanced template .sections)
  | span :: rest => match open? with
    | some (r, content) => match r.next? (trim span) with
      | some r' => liftSpans template (n + 1) seen (some (r', content ++ span)) rest
      | none =>
        if seen.contains r.name then .error ⟨template, .duplicateSection r.name⟩
        else (liftSpans template (n + 1) (r.name :: seen) none rest).map
          fun (body, sections) => (body, ⟨r.name, content⟩ :: sections)
    | none => match header? RegionKind.sections.keyword (trim span) with
      | some [] => .error ⟨template, .emptySectionName n⟩
      | some name => liftSpans template (n + 1) seen (some (⟨capitalize name, n, 1⟩, [])) rest
      | none => (liftSpans template (n + 1) seen none rest).map
          fun (body, sections) => (span ++ body, sections)

/-- The body without its section regions, and the sections in order. -/
def extractSections (template body : Text) : Except CompileError (Text × List Section) :=
  liftSpans template 1 [] none (lineSpans body)

example : stripBlocks [] "A\nblock x \x7b\nif y \x7b\n\x7d\n\x7d\nB\n".toList = .ok "A\nB\n".toList := by
  decide +kernel
example : extractSections [] "a\nsection foo \x7b\nhello\n\x7d\nb\n".toList
    = .ok ("a\nb\n".toList, [⟨"Foo".toList, "hello\n".toList⟩]) := by decide +kernel

end GoTemplate
