/-
  Code and literals on one line of Go.

  Comments, statement ends and brackets count only OUTSIDE string, rune and raw literals.  A scan
  walks a line with its state: in code, or inside a literal opened by one of the three quotes; a
  backslash escapes the next character except in a raw literal.  A literal left open lasts to the
  end of the line, and a raw one goes on from there.
-/
import GoTemplate.Text

namespace GoTemplate.Go

/-- Where a scan stands. -/
inductive ScanState where
  | code
  /-- Inside a literal opened by `quote`; `escaped` if a backslash was just read. -/
  | literal (quote : Char) (escaped : Bool)
deriving DecidableEq, Repr

/-- One of the three quotes that open a literal. -/
def isQuote (c : Char) : Bool := c == '"' || c == '\'' || c == '\x60'

namespace ScanState

/-- Inside a raw literal. -/
def raw : ScanState := .literal '\x60' false

/-- The state after one more character. -/
def next : ScanState → Char → ScanState
  | .code, c => if isQuote c then .literal c false else .code
  | .literal q true, _ => .literal q false
  | .literal q false, c =>
    if c = '\\' ∧ q ≠ '\x60' then .literal q true
    else if c = q then .code
    else .literal q false

/-- A character read in this state is code: outside literals and not the quote that opens one. -/
def isCode (s : ScanState) (c : Char) : Bool := s == .code && !isQuote c

/-- A comment starts here: two slashes in code. -/
def atComment (s : ScanState) (t : Text) : Bool := s == .code && "//".toList.isPrefixOf t

end ScanState

/-- The line up to a `//` comment. -/
def dropComment (s : ScanState) : Text → Text
  | [] => []
  | c :: t => if s.atComment (c :: t) then [] else c :: dropComment (s.next c) t

/-- Whether a line ends inside a raw literal. -/
def endsInRaw (s : ScanState) : Text → Bool
  | [] => s == .raw
  | c :: t => if s.atComment (c :: t) then false else endsInRaw (s.next c) t

example : dropComment .code "a \"//\" // c".toList = "a \"//\" ".toList := by decide
example : endsInRaw .code "x := \"`\" + `open".toList = true := by decide

end GoTemplate.Go
