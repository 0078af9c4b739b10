/-
  Statements and groups on a line of declarations.

  Semicolons and parentheses cut a line only where they are code.  Every cut is made in code, so
  the piece after it, scanned afresh, is in the state the whole line was in.
-/
import GoTemplate.Text
import GoTemplate.Go.Scan

namespace GoTemplate

open Go (ScanState dropComment)

/-- The pieces between the semicolons. -/
def splitStatements (s : ScanState) : Text → List Text
  | [] => [[]]
  | c :: t =>
    if s = .code ∧ c = ';' then [] :: splitStatements .code t
    else match splitStatements (s.next c) t with
      | [] => [[c]]
      | p :: ps => (c :: p) :: ps

/-- The statements of one line, its comment left out. -/
def statements (line : Text) : List Text := splitStatements .code (dropComment .code line)

/-- The bracket depth after a character of code; a bracket too many closes nothing. -/
def bracketDepth (depth : Nat) (c : Char) : Nat :=
  if c = '(' ∨ c = '[' ∨ c = '\x7b' then depth + 1
  else if c = ')' ∨ c = ']' ∨ c = '\x7d' then depth - 1
  else depth

/-- What stands before and after the `)` that closes a group, brackets within it skipped. -/
def groupClose? (s : ScanState) (depth : Nat) : Text → Option (Text × Text)
  | [] => none
  | c :: t =>
    if s = .code ∧ c = ')' ∧ depth = 0 then some ([], t)
    else
      (groupClose? (s.next c) (if s = .code then bracketDepth depth c else depth) t).map
        fun (front, rest) => (c :: front, rest)

/-- What follows the closing parenthesis is shorter than the text. -/
theorem groupClose?_length {s : ScanState} {depth : Nat} {t front rest : Text}
    (h : groupClose? s depth t = some (front, rest)) : rest.length < t.length := by
  induction t generalizing s depth front with
  | nil => simp [groupClose?] at h
  | cons c t ih =>
    rw [groupClose?] at h
    split at h
    · simp only [Option.some.injEq, Prod.mk.injEq] at h
      obtain ⟨_, rfl⟩ := h
      simp
    · obtain ⟨⟨front', rest'⟩, hc, he⟩ := Option.map_eq_some_iff.1 h
      simp only [Prod.mk.injEq] at he
      obtain ⟨_, rfl⟩ := he
      have := ih hc
      simp only [List.length_cons]
      omega

example : statements "a;';';b // c; d".toList = ["a".toList, "';'".toList, "b ".toList] := by decide
example : groupClose? .code 0 "f func(int) x) y".toList
    = some ("f func(int) x".toList, " y".toList) := by decide

end GoTemplate
