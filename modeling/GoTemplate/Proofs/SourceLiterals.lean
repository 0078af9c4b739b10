/-
  The literals of a text of declarations.

  `Go.literals` lists the string, raw and rune literals of a line from left to right, each with its
  quotes; a literal that is left open at the end of the line is none.  The scan behind it knows
  nothing of declarations.  The literals of a text, comments left out, are those of its entries, in
  order (`textLiterals_eq`): no cut that the reader makes goes through a literal, and nothing but
  keywords, parentheses, semicolons and blanks stands outside the entries.

  The argument is the same for every cut.  What stands in front of the cut leaves the scan in code,
  so the two sides can be scanned apart (`closedLiterals_append`), and what is left out has no quote
  in it (`Unquoted`).
-/
import GoTemplate.Proofs.Entries
import GoTemplate.Proofs.Specs

namespace GoTemplate

open Go (ScanState dropComment isQuote)

namespace Go

/-! ## Literals of a line -/

/-- The literals that are closed in a text; `read` is what has been read of the one that is open. -/
def closedLiterals (s : ScanState) (read : Text) : Text → List Text
  | [] => []
  | c :: t =>
    if s.next c = .code then
      (if s = .code then [] else [read ++ [c]]) ++ closedLiterals .code [] t
    else closedLiterals (s.next c) (if s = .code then [c] else read ++ [c]) t

/-- The literals of a line. -/
def literals (line : Text) : List Text := closedLiterals .code [] line

example : literals "a \"b\\\"c\" `d` '\"' \"e".toList
    = ["\"b\\\"c\"".toList, "`d`".toList, "'\"'".toList] := by decide

/-- In code nothing is read of any literal. -/
theorem closedLiterals_code (read t : Text) : closedLiterals .code read t = literals t := by
  cases t with
  | nil => rfl
  | cons c t => simp [literals, closedLiterals]

/-- **Two sides of a place in code are scanned apart.** -/
theorem closedLiterals_append {s : ScanState} {u : Text} (h : s.run u = .code) (read v : Text) :
    closedLiterals s read (u ++ v) = closedLiterals s read u ++ literals v := by
  induction u generalizing s read with
  | nil =>
    obtain rfl : s = .code := h
    exact closedLiterals_code read v
  | cons c u ih =>
    have hrun : (s.next c).run u = .code := h
    rw [List.cons_append, closedLiterals, closedLiterals]
    split
    · next hcode =>
      rw [hcode] at hrun
      rw [ih hrun, List.append_assoc]
    · exact ih hrun _

theorem literals_append {u : Text} (h : ScanState.code.run u = .code) (v : Text) :
    literals (u ++ v) = literals u ++ literals v := closedLiterals_append h [] v

/-! ## Text without quotes -/

/-- No quote is in a text. -/
def Unquoted (u : Text) : Prop := ∀ c ∈ u, isQuote c = false

theorem unquoted_of_all {u : Text} (h : u.all (!isQuote ·) = true) : Unquoted u := fun c hc => by
  simpa using List.all_eq_true.1 h c hc

theorem Unquoted.append {u v : Text} (hu : Unquoted u) (hv : Unquoted v) : Unquoted (u ++ v) := by
  intro c hc
  rcases List.mem_append.1 hc with hc | hc
  · exact hu c hc
  · exact hv c hc

theorem Unquoted.run {u : Text} (hu : Unquoted u) : ScanState.code.run u = .code := by
  induction u with
  | nil => rfl
  | cons c u ih =>
    obtain ⟨hc, hu⟩ := List.forall_mem_cons.1 hu
    have hnext : ScanState.code.next c = .code := by simp [ScanState.next, hc]
    show (ScanState.code.next c).run u = .code
    rw [hnext]
    exact ih hu

/-- In code, or in a literal that a quote has opened. -/
def ScanState.Opened : ScanState → Prop
  | .code => True
  | .literal q _ => isQuote q = true

theorem ScanState.opened_code : ScanState.code.Opened := trivial

theorem ScanState.Opened.next {s : ScanState} (h : s.Opened) (c : Char) : (s.next c).Opened := by
  cases s with
  | code =>
    rw [ScanState.next]
    split
    · assumption
    · trivial
  | literal q escaped =>
    cases escaped with
    | true => exact h
    | false =>
      rw [ScanState.next]
      split
      · exact h
      · split
        · trivial
        · exact h

/-- Without a quote no literal is closed. -/
theorem Unquoted.closedLiterals {v : Text} (hv : Unquoted v) {s : ScanState} (hs : s.Opened)
    (read : Text) : closedLiterals s read v = [] := by
  induction v generalizing s read with
  | nil => rfl
  | cons c v ih =>
    obtain ⟨hc, hv⟩ := List.forall_mem_cons.1 hv
    rw [Go.closedLiterals]
    split
    · next hnext =>
      -- only a quote leads from a literal back to code
      have hcode : s = .code := by
        cases s with
        | code => rfl
        | literal q escaped =>
          cases escaped with
          | true => cases hnext
          | false =>
            have hq : c ≠ q := by
              rintro rfl
              exact Bool.false_ne_true (hc.symm.trans hs)
            simp only [ScanState.next, if_neg hq] at hnext
            split at hnext <;> cases hnext
      rw [if_pos hcode, ih hv ScanState.opened_code []]
      rfl
    · exact ih hv (hs.next c) _

/-- Text without quotes at the end adds no literal, whether or not one is open. -/
theorem closedLiterals_append_unquoted {s : ScanState} (hs : s.Opened) {v : Text} (hv : Unquoted v)
    (read u : Text) : closedLiterals s read (u ++ v) = closedLiterals s read u := by
  induction u generalizing s read with
  | nil => exact hv.closedLiterals hs read
  | cons c u ih =>
    rw [List.cons_append, closedLiterals, closedLiterals]
    split
    · rw [ih ScanState.opened_code]
    · exact ih (hs.next c) _

theorem literals_append_unquoted (u : Text) {v : Text} (hv : Unquoted v) :
    literals (u ++ v) = literals u := closedLiterals_append_unquoted ScanState.opened_code hv [] u

theorem literals_unquoted_append {u : Text} (hu : Unquoted u) (v : Text) :
    literals (u ++ v) = literals v := by
  have hnone : literals u = [] := hu.closedLiterals ScanState.opened_code []
  rw [literals_append hu.run, hnone]
  rfl

theorem unquoted_of_blank {b : Text} (hb : ∀ c ∈ b, isBlank c = true) : Unquoted b := by
  intro c hc
  have hquote : ∀ q, isQuote q = true → isBlank q = false := by
    intro q hq
    simp only [isQuote, Bool.or_eq_true, beq_iff_eq] at hq
    rcases hq with (rfl | rfl) | rfl <;> decide
  rw [Bool.eq_false_iff]
  intro hq
  exact Bool.false_ne_true ((hquote c hq).symm.trans (hb c hc))

theorem unquoted_of_plain {u : Text} (hu : ∀ c ∈ u, c ∉ marks) : Unquoted u := by
  intro c hc
  rw [Bool.eq_false_iff]
  intro hq
  simp only [isQuote, Bool.or_eq_true, beq_iff_eq] at hq
  rcases hq with (rfl | rfl) | rfl <;> exact hu _ hc (by decide)

theorem literals_trimStart (t : Text) : literals (trimStart t) = literals t := by
  have hcut : t.takeWhile isBlank ++ trimStart t = t := List.takeWhile_append_dropWhile
  have hblank : Unquoted (t.takeWhile isBlank) :=
    unquoted_of_blank fun c hc => List.mem_takeWhile_imp hc
  calc literals (trimStart t)
      = literals (t.takeWhile isBlank ++ trimStart t) := (literals_unquoted_append hblank _).symm
    _ = literals t := by rw [hcut]

/-- Trimming removes no literal and makes none. -/
theorem literals_trim (t : Text) : literals (trim t) = literals t := by
  have hcut : trim t ++ ((trimStart t).reverse.takeWhile isBlank).reverse = trimStart t := by
    rw [trim, trimEnd, dropEndWhile, ← List.reverse_append, List.takeWhile_append_dropWhile,
      List.reverse_reverse]
  have hblank : Unquoted ((trimStart t).reverse.takeWhile isBlank).reverse :=
    unquoted_of_blank fun c hc => List.mem_takeWhile_imp (List.mem_reverse.1 hc)
  rw [← literals_append_unquoted (trim t) hblank, hcut, literals_trimStart]

end Go

open Go

/-! ## Cuts -/

/-- The literals of the pieces between semicolons. -/
theorem closedLiterals_splitStatements {s : ScanState} {t p : Text} {ps : List Text}
    (h : splitStatements s t = p :: ps) (read : Text) :
    closedLiterals s read t = closedLiterals s read p ++ ps.flatMap literals := by
  induction t generalizing s read p ps with
  | nil =>
    cases h
    rfl
  | cons c t ih =>
    obtain ⟨q, qs, hq⟩ := List.exists_cons_of_ne_nil (splitStatements_ne_nil (s.next c) t)
    rw [splitStatements] at h
    split at h
    · next hcut =>
      obtain ⟨rfl, rfl⟩ := hcut
      have hnext : ScanState.code.next ';' = .code := rfl
      have hskip : closedLiterals .code read (';' :: t) = literals t := by
        rw [closedLiterals, hnext, if_pos rfl, if_pos rfl]
        rfl
      rw [hnext] at hq
      cases h
      rw [hskip, hq, List.flatMap_cons]
      exact ih hq []
    · rw [hq] at h
      cases h
      rw [closedLiterals, closedLiterals]
      split
      · next hcode =>
        rw [hcode] at hq
        rw [ih hq [], List.append_assoc]
      · exact ih hq _

theorem literals_statements (line : Text) :
    (statements line).flatMap literals = literals (dropComment .code line) := by
  obtain ⟨p, ps, hp⟩ :=
    List.exists_cons_of_ne_nil (splitStatements_ne_nil .code (dropComment .code line))
  rw [statements, hp, List.flatMap_cons]
  exact (closedLiterals_splitStatements hp []).symm

theorem literals_keywordRest? {word stmt rest : Text} (hword : Unquoted word)
    (h : keywordRest? word stmt = some rest) : literals stmt = literals rest := by
  rw [keywordRest?] at h
  split at h
  · cases h
  · cases h
  · next c t hafter =>
    rw [eq_append_of_after? hafter, literals_unquoted_append hword]
    split at h
    · cases h
      rfl
    · split at h
      · next hblank =>
        cases h
        have hc : Unquoted [c] := unquoted_of_blank (by simpa using hblank)
        rw [literals_trimStart]
        exact literals_unquoted_append hc t
      · cases h

/-- The literals of entries. -/
def entryLiterals (es : List Entry) : List Text := es.flatMap fun e => literals e.text

theorem entryLiterals_append (es fs : List Entry) :
    entryLiterals (es ++ fs) = entryLiterals es ++ entryLiterals fs := List.flatMap_append

theorem entryLiterals_singleton (e : Entry) : entryLiterals [e] = literals e.text :=
  List.append_nil _

theorem Group.entryLiterals_entries (g : Group) (piece : Text) :
    entryLiterals (g.entries piece) = literals piece := by
  rw [Group.entries, ← literals_trim piece]
  split
  · next hempty =>
    rw [List.isEmpty_iff.1 hempty]
    rfl
  · exact entryLiterals_singleton ⟨g, trim piece⟩

theorem Group.literals_cutKeyword (g : Group) (rest : Text) :
    literals rest = entryLiterals (g.cutKeyword rest).entries
      ++ literals (g.cutKeyword rest).rest := by
  rw [Group.cutKeyword]
  split
  · next inner hinner =>
    have hparen : Unquoted ['('] := fun c hc => by rw [List.mem_singleton.1 hc]; rfl
    rw [eq_append_of_after? hinner, literals_unquoted_append hparen]
    exact (literals_trim inner).symm
  · simp only [entryLiterals_singleton]
    exact (List.append_nil _).symm

/-- **One step** loses no literal. -/
theorem literals_cutStep (group : Option Group) (stmt : Text) :
    literals stmt = entryLiterals (cutStep group stmt).entries
      ++ literals (cutStep group stmt).rest := by
  cases group with
  | none =>
    rw [cutStep, cutOutside]
    split
    · next rest hrest =>
      rw [literals_keywordRest? (unquoted_of_all (by decide)) hrest]
      exact Group.imports.literals_cutKeyword rest
    · split
      · next rest hrest =>
        rw [literals_keywordRest? (unquoted_of_all (by decide)) hrest]
        exact Group.vars.literals_cutKeyword rest
      · split
        · next hpackage =>
          obtain ⟨name, hname, hident⟩ := (Option.any_eq_true _ _).1 hpackage
          have hquiet := unquoted_of_plain (plain_of_isIdentifier hident)
          rw [literals_keywordRest? (unquoted_of_all (by decide)) hname]
          exact hquiet.closedLiterals ScanState.opened_code []
        · simp only [entryLiterals_singleton]
          exact (List.append_nil _).symm
  | some g =>
    rw [cutStep, Group.cutInside]
    split
    · next spec rest hclose =>
      obtain ⟨rfl, hrun⟩ := groupClose?_eq hclose
      have hparen : Unquoted [')'] := fun c hc => by rw [List.mem_singleton.1 hc]; rfl
      have hrest : literals (')' :: rest) = literals (trim rest) :=
        (literals_unquoted_append hparen rest).trans (literals_trim rest).symm
      rw [literals_append hrun, hrest]
      exact congrArg (· ++ _) (g.entryLiterals_entries spec).symm
    · rw [g.entryLiterals_entries]
      exact (List.append_nil _).symm

theorem entryLiterals_cutStatement (group : Option Group) (stmt : Text) :
    entryLiterals (cutStatement group stmt).1 = literals stmt := by
  fun_induction cutStatement group stmt with
  | case1 group => rfl
  | case2 group c t cut later ih =>
    rw [entryLiterals_append, ih]
    exact (literals_cutStep group (c :: t)).symm

theorem entryLiterals_cutStatements (group : Option Group) (stmts : List Text) :
    entryLiterals (cutStatements group stmts).1 = stmts.flatMap literals := by
  induction stmts generalizing group with
  | nil => rfl
  | cons stmt stmts ih =>
    rw [cutStatements, entryLiterals_append, ih, entryLiterals_cutStatement, literals_trim,
      List.flatMap_cons]

/-- The literals of a text, line by line and without comments. -/
def textLiterals (t : Text) : List Text := (lines t).flatMap fun l => literals (dropComment .code l)

/-- **The literals of a text are those of its entries.** -/
theorem textLiterals_eq (t : Text) : textLiterals t = entryLiterals (textEntries t) := by
  rw [textEntries, cutText, entryLiterals_cutStatements, List.flatMap_assoc, textLiterals]
  simp only [literals_statements]

end GoTemplate
