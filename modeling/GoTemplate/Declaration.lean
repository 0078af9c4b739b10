/-
  The declarations of a template: the text of its first control node.

  Statements end at line ends and semicolons; an `import` or `var` statement may open a group in
  parentheses that goes on over later lines.  A package clause is allowed and says nothing; a
  bare import spec counts as an import.  A line with anything else is refused with its number, and
  so is a group that is never closed.

  The reader is a fold: lines, the statements of a line, the steps of a statement.  Its state is
  the declarations so far and the open group.
-/
import GoTemplate.Text
import GoTemplate.Declaration.Scan
import GoTemplate.Declaration.Spec

namespace GoTemplate

/-! ## State -/

/-- The kind of an open group. -/
inductive Group where
  | imports
  | vars
deriving DecidableEq

/-- What has been read: the declarations in order, and the group that is open. -/
structure Reading where
  decls : List Declaration := []
  group : Option Group := none
deriving DecidableEq

/-- A refused line, counted from one. -/
structure Rejection where
  line : Nat
  text : Text
deriving DecidableEq

/-- More declarations at the end. -/
def Reading.add (r : Reading) (ds : List Declaration) : Reading := { r with decls := r.decls ++ ds }

/-! ## Statements -/

/-- What follows a keyword that stands as a word of its own. -/
def keywordRest? (keyword stmt : Text) : Option Text :=
  match after? keyword stmt with
  | none | some [] => none
  | some (c :: t) =>
    if c = '(' ∨ c = '"' ∨ c = '\x60' then some (c :: t)
    else if isBlank c then some (trimStart t)
    else none

/-- The declarations of a spec in a group. -/
def Group.spec? : Group → Text → Option (List Declaration)
  | .imports, t => (importSpec? t).map ([·])
  | .vars, t => varSpec? t

/-- After the keyword of a group: an opening parenthesis, or one spec and nothing left. -/
def Reading.openOrSpec (r : Reading) (g : Group) (rest : Text) : Option (Reading × Text) :=
  match after? ['('] rest with
  | some inner => some ({ r with group := some g }, trim inner)
  | none => (g.spec? rest).map fun ds => (r.add ds, [])

/-- One step on a statement outside groups. -/
def Reading.topStep (r : Reading) (stmt : Text) : Option (Reading × Text) :=
  match keywordRest? "import".toList stmt with
  | some rest => r.openOrSpec .imports rest
  | none => match keywordRest? "var".toList stmt with
    | some rest => r.openOrSpec .vars rest
    | none =>
      if (keywordRest? "package".toList stmt).any isIdentifier then some (r, [])
      else (Group.imports.spec? stmt).map fun ds => (r.add ds, [])

/-- The declarations of a piece of a group; a blank piece holds none. -/
def Group.piece? (g : Group) (t : Text) : Option (List Declaration) :=
  if (trim t).isEmpty then some [] else g.spec? (trim t)

/-- One step on a statement inside a group: a spec up to the closing parenthesis or to the end. -/
def Reading.groupStep (r : Reading) (g : Group) (stmt : Text) : Option (Reading × Text) :=
  match groupClose? .code 0 stmt with
  | some (spec, rest) =>
    (g.piece? spec).map fun ds => ({ r.add ds with group := none }, trim rest)
  | none => (g.piece? stmt).map fun ds => (r.add ds, [])

/-- One step on a statement: the new state and what is left of the statement. -/
def Reading.step (r : Reading) (stmt : Text) : Option (Reading × Text) :=
  match r.group with
  | none => r.topStep stmt
  | some g => r.groupStep g stmt

/-! ## Each step leaves less -/

theorem length_dropEndWhile_le (p : Char → Bool) (t : Text) : (dropEndWhile p t).length ≤ t.length := by
  have := (List.dropWhile_suffix p (l := t.reverse)).length_le
  simpa [dropEndWhile] using this

theorem length_trim_le (t : Text) : (trim t).length ≤ t.length :=
  Nat.le_trans (length_dropEndWhile_le _ _) (length_trimStart_le t)

theorem length_after? {lead t rest : Text} (h : after? lead t = some rest) :
    t.length = lead.length + rest.length := by
  induction lead generalizing t with
  | nil => simp_all [after?]
  | cons a lead ih =>
    cases t with
    | nil => simp [after?] at h
    | cons c t =>
      rw [after?] at h
      split at h
      · have := ih h
        simp only [List.length_cons]
        omega
      · simp at h

theorem length_keywordRest? {keyword stmt rest : Text} (h : keywordRest? keyword stmt = some rest) :
    rest.length ≤ stmt.length := by
  rw [keywordRest?] at h
  split at h
  · simp at h
  · simp at h
  · next c t hc =>
    have hl := length_after? hc
    have ht := length_trimStart_le t
    simp only [List.length_cons] at hl
    split at h
    · simp only [Option.some.injEq] at h
      subst h
      simp only [List.length_cons]
      omega
    · split at h
      · simp only [Option.some.injEq] at h
        subst h
        omega
      · simp at h

theorem Reading.length_openOrSpec {r r' : Reading} {g : Group} {t rest : Text}
    (h : r.openOrSpec g t = some (r', rest)) : rest = [] ∨ rest.length < t.length := by
  rw [Reading.openOrSpec] at h
  split at h
  · next inner hi =>
    simp only [Option.some.injEq, Prod.mk.injEq] at h
    obtain ⟨_, rfl⟩ := h
    have := length_after? hi
    have := length_trim_le inner
    simp only [List.length_cons, List.length_nil] at *
    omega
  · obtain ⟨_, _, he⟩ := Option.map_eq_some_iff.1 h
    simp only [Prod.mk.injEq] at he
    exact Or.inl he.2.symm

/-- A step leaves nothing or something shorter. -/
theorem Reading.length_step {r r' : Reading} {stmt rest : Text}
    (h : r.step stmt = some (r', rest)) : rest = [] ∨ rest.length < stmt.length := by
  rw [Reading.step] at h
  split at h
  · rw [Reading.topStep] at h
    split at h
    · next hk =>
      rcases Reading.length_openOrSpec h with h | h
      · exact Or.inl h
      · exact Or.inr (Nat.lt_of_lt_of_le h (length_keywordRest? hk))
    · split at h
      · next hk =>
        rcases Reading.length_openOrSpec h with h | h
        · exact Or.inl h
        · exact Or.inr (Nat.lt_of_lt_of_le h (length_keywordRest? hk))
      · split at h
        · simp only [Option.some.injEq, Prod.mk.injEq] at h
          exact Or.inl h.2.symm
        · obtain ⟨_, _, he⟩ := Option.map_eq_some_iff.1 h
          simp only [Prod.mk.injEq] at he
          exact Or.inl he.2.symm
  · rw [Reading.groupStep] at h
    split at h
    · next spec after hc =>
      obtain ⟨_, _, he⟩ := Option.map_eq_some_iff.1 h
      simp only [Prod.mk.injEq] at he
      obtain ⟨_, rfl⟩ := he
      exact Or.inr (Nat.lt_of_le_of_lt (length_trim_le _) (groupClose?_length hc))
    · obtain ⟨_, _, he⟩ := Option.map_eq_some_iff.1 h
      simp only [Prod.mk.injEq] at he
      exact Or.inl he.2.symm

/-! ## Lines -/

/-- Steps on a trimmed statement until nothing is left; `none` if it is no declaration. -/
def Reading.run (r : Reading) (stmt : Text) : Option Reading :=
  match stmt with
  | [] => some r
  | c :: t =>
    match _h : r.step (c :: t) with
    | some (r', rest) => r'.run rest
    | none => none
termination_by stmt.length
decreasing_by
  rcases Reading.length_step _h with rfl | h
  · simp
  · exact h

/-- One line: its statements in turn. -/
def Reading.line (r : Reading) (raw : Text) : Option Reading :=
  (statements raw).foldlM (fun r stmt => r.run (trim stmt)) r

/-- Lines in turn, the first of them with number `n`. -/
def Reading.lines (n : Nat) (r : Reading) : List Text → Except Rejection Reading
  | [] => .ok r
  | raw :: rest =>
    match r.line raw with
    | some r' => Reading.lines (n + 1) r' rest
    | none => .error ⟨n, trim raw⟩

/-- What is said of a group that is never closed. -/
def unterminatedGroup : Text := "unterminated declaration group".toList

/-- The declarations of a text, or the first line that is none. -/
def parseDeclarations (t : Text) : Except Rejection (List Declaration) :=
  match Reading.lines 1 {} (lines t) with
  | .error e => .error e
  | .ok r =>
    match r.group with
    | none => .ok r.decls
    | some _ => .error ⟨max (lines t).length 1, unterminatedGroup⟩

example : parseDeclarations "import (\"a\"; b \"kp/b\")\nvar x int // n".toList
    = .ok [.importing ⟨none, "\"a\"".toList⟩, .importing ⟨some "b".toList, "\"kp/b\"".toList⟩,
        .param ⟨"x".toList, "int".toList⟩] := by decide +kernel
example : parseDeclarations "import \"fmt\"\n)".toList = .error ⟨2, ")".toList⟩ := by decide +kernel

end GoTemplate
