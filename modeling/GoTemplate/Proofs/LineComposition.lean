/-
  Declarations are read line by line, and a line end is a seam.

  Put a line feed between two texts.  If the first is a list of declarations, the whole is the first
  list and then whatever the second text is, a refusal included, with its line counted on
  (`parseDeclarations_seam`).  If a line of the first is refused, the whole is refused there.

  1. The lines of the whole are the lines of the first text with its last line ended, then those of
     the second (`lineSpans_seam`), and ending a last line changes nothing for the reader
     (`Reading.lines_ended`): it adds an empty line or a line end, and a carriage return that was
     text and becomes part of that end is a blank.
  2. What is read of some lines is where reading the next begins (`Reading.lines_append`).
  3. The reader looks at the open group alone: declarations read before stay in front
     (`Reading.lines_behind`), and the number of the first line only shifts a refusal
     (`Reading.lines_shift`).
-/
import GoTemplate.Proofs.Entries

namespace GoTemplate

/-! ## Lines at a seam -/

/-- A line feed between two texts cuts them apart. -/
theorem lineSpans_seam (s t : Text) :
    lineSpans (s ++ '\n' :: t) = lineSpans (s ++ ['\n']) ++ lineSpans t := by
  induction s with
  | nil => rfl
  | cons c s ih =>
    -- up to the line feed there is always a line for `c` to stand in front of
    obtain ⟨l, ls, hl⟩ : ∃ l ls, lineSpans (s ++ ['\n']) = l :: ls :=
      List.exists_cons_of_ne_nil fun h =>
        List.append_ne_nil_of_right_ne_nil s (List.cons_ne_nil _ _) (eq_nil_of_lineSpans h)
    rw [List.cons_append, List.cons_append, lineSpans, lineSpans, ih, hl]
    split
    · rfl
    · rfl

/-- A text with its last line ended has one line more than it had line feeds. -/
theorem length_lineSpans_ended (t : Text) :
    (lineSpans (t ++ ['\n'])).length = t.count '\n' + 1 := by
  induction t with
  | nil => rfl
  | cons c t ih =>
    rw [List.cons_append, lineSpans]
    split
    · next hc => rw [List.length_cons, ih, hc, List.count_cons_self]
    · next hc =>
      rw [List.count_cons_of_ne hc]
      cases h : lineSpans (t ++ ['\n']) with
      | nil => rw [h] at ih; cases ih
      | cons l ls => rw [h] at ih; exact ih

theorem trim_concat {c : Char} (hc : isBlank c = true) (l : Text) : trim (l ++ [c]) = trim l :=
  trim_append_blank (List.forall_mem_singleton.2 hc) l

theorem trim_chomp (span : Text) : trim (chomp span) = trim span :=
  apply_chomp (fun l _ hc => trim_concat hc l) span

/-! ## The reader at a seam -/

namespace Reading

/-- Lines in turn, in two parts. -/
theorem lines_append (n : Nat) (r : Reading) (ls ms : List Text) :
    Reading.lines n r (ls ++ ms)
      = (Reading.lines n r ls).bind fun r' => Reading.lines (n + ls.length) r' ms := by
  induction ls generalizing n r with
  | nil => rfl
  | cons l ls ih =>
    rw [List.cons_append, Reading.lines, Reading.lines]
    cases r.line l with
    | none => rfl
    | some r' =>
      have hnumber : n + (l :: ls).length = n + 1 + ls.length := by
        rw [List.length_cons]
        omega
      rw [hnumber]
      exact ih (n + 1) r'

/-- The reader sees a line end as it sees a blank, and its refusal does not show it. -/
theorem lines_chomp_cons (n : Nat) (r : Reading) (span : Text) (ls : List Text) :
    Reading.lines n r (chomp span :: ls) = Reading.lines n r (span :: ls) := by
  rw [Reading.lines, Reading.lines, r.line_chomp, trim_chomp]

/-- **Ending the last line changes nothing for the reader.** -/
theorem lines_ended (n : Nat) (r : Reading) (t : Text) :
    Reading.lines n r (GoTemplate.lines (t ++ ['\n'])) = Reading.lines n r (GoTemplate.lines t) := by
  have hspans := spans_lineSpans t
  show Reading.lines n r ((lineSpans (t ++ ['\n'])).map chomp)
    = Reading.lines n r ((lineSpans t).map chomp)
  nth_rewrite 1 [← flatten_lineSpans t]
  generalize lineSpans t = ls at hspans
  -- along the lines of `t`; only at the last of them something happens
  induction hspans generalizing n r with
  | nil =>
    have hblank : r.line [] = some r := r.runAll_cons_blank rfl []
    show Reading.lines n r [[]] = .ok r
    rw [Reading.lines, hblank]
    rfl
  | @last l hl _ =>
    rw [List.flatten_singleton, lineSpans_append_newline hl, List.map_singleton,
      chomp_of_not_mem hl]
    show Reading.lines n r [chomp (l ++ ['\n'])] = _
    rw [lines_chomp_cons, Reading.lines, Reading.lines, r.line_concat (by decide),
      trim_concat (by decide)]
  | @cons l ls hl _ ih =>
    have hcut : ((l ++ ['\n']) :: ls).flatten ++ ['\n'] = l ++ '\n' :: (ls.flatten ++ ['\n']) := by
      simp
    rw [hcut, lineSpans_append_newline hl, List.map_cons, List.map_cons, Reading.lines,
      Reading.lines]
    cases r.line (chomp (l ++ ['\n'])) with
    | none => rfl
    | some r' => exact ih (n + 1) r'

/-- A reading with declarations that were read before. -/
def behind (ds : List Declaration) (r : Reading) : Reading := ⟨ds ++ r.decls, r.group⟩

/-- A line is read alike whatever was declared before. -/
theorem line_behind (ds : List Declaration) (r : Reading) (l : Text) :
    (r.behind ds).line l = (r.line l).map (behind ds) := by
  have hline : ∀ x : Reading, x.line l = x.runAll (statements l) := fun _ => rfl
  rw [hline, hline, runAll_eq, runAll_eq, Option.map_map]
  congr 1
  funext ds'
  show Reading.mk (ds ++ r.decls ++ ds') _ = Reading.mk (ds ++ (r.decls ++ ds')) _
  rw [List.append_assoc]
  rfl

/-- Lines are read alike whatever was declared before. -/
theorem lines_behind (ds : List Declaration) (n : Nat) (r : Reading) (ls : List Text) :
    Reading.lines n (r.behind ds) ls = (Reading.lines n r ls).map (behind ds) := by
  induction ls generalizing n r with
  | nil => rfl
  | cons l ls ih =>
    rw [Reading.lines, Reading.lines, line_behind]
    cases r.line l with
    | none => rfl
    | some r' => exact ih (n + 1) r'

end Reading

/-- A refusal with its line counted on. -/
def Rejection.shift (k : Nat) (e : Rejection) : Rejection := { e with line := e.line + k }

/-- The number of the first line only shifts a refusal. -/
theorem Reading.lines_shift (k n : Nat) (r : Reading) (ls : List Text) :
    Reading.lines (n + k) r ls = (Reading.lines n r ls).mapError (Rejection.shift k) := by
  induction ls generalizing n r with
  | nil => rfl
  | cons l ls ih =>
    rw [Reading.lines, Reading.lines]
    cases r.line l with
    | none => rfl
    | some r' =>
      rw [Nat.add_right_comm]
      exact ih (n + 1) r'

/-! ## Texts at a seam -/

/-- Every line of a text can be read, and a group is open behind the last. -/
def LeavesGroupOpen (t : Text) : Prop :=
  ∃ r, (lines t).foldlM Reading.line {} = some r ∧ r.group ≠ none

/-- The reader's answer behind the last of `count` lines. -/
def Reading.close (count : Nat) (r : Reading) : Except Rejection (List Declaration) :=
  match r.group with
  | none => .ok r.decls
  | some _ => .error ⟨max count 1, unterminatedGroup⟩

theorem parseDeclarations_eq (t : Text) :
    parseDeclarations t
      = (Reading.lines 1 {} (lines t)).bind (Reading.close (lines t).length) := by
  rw [parseDeclarations]
  cases Reading.lines 1 {} (lines t) with
  | error e => rfl
  | ok r => rfl

/-- **The reader on both sides of a seam**: from where the first text leaves it, through the second,
    with the lines counted on. -/
theorem parseDeclarations_seam (s t : Text) :
    parseDeclarations (s ++ '\n' :: t)
      = (Reading.lines 1 {} (lines s)).bind fun r =>
          (Reading.lines (1 + (s.count '\n' + 1)) r (lines t)).bind
            (Reading.close (s.count '\n' + 1 + (lines t).length)) := by
  have hlines : lines (s ++ '\n' :: t) = lines (s ++ ['\n']) ++ lines t := by
    rw [lines, lineSpans_seam, List.map_append]
    rfl
  have hcount : (lines (s ++ ['\n'])).length = s.count '\n' + 1 := by
    rw [lines, List.length_map, length_lineSpans_ended]
  rw [parseDeclarations_eq, hlines, Reading.lines_append, Reading.lines_ended, List.length_append,
    hcount]
  cases Reading.lines 1 {} (lines s) with
  | error e => rfl
  | ok r => rfl

/-- An open group is refused on the last line, and there is one. -/
theorem Reading.close_behind (ds : List Declaration) (k : Nat) {count : Nat} {r : Reading}
    (h : r.group ≠ none → 1 ≤ count) :
    (r.behind ds).close (k + count)
      = ((r.close count).map (ds ++ ·)).mapError (Rejection.shift k) := by
  obtain ⟨decls, group⟩ := r
  cases group with
  | none => rfl
  | some g =>
    have hcount := h (Option.some_ne_none g)
    have hline : max (k + count) 1 = max count 1 + k := by omega
    show Except.error (Rejection.mk _ _) = Except.error (Rejection.mk _ _)
    rw [hline]

theorem parseDeclarations_eq_ok {t : Text} {ds : List Declaration}
    (h : parseDeclarations t = .ok ds) : Reading.lines 1 {} (lines t) = .ok ⟨ds, none⟩ := by
  have hread := (parseDeclarations_ok_iff_runAll t ds).1 h
  rw [← Reading.foldlM_line] at hread
  exact Reading.lines_of_foldlM 1 hread

/-- A text is refused at a line, or for a group that it leaves open. -/
theorem lines_of_parseDeclarations_error {t : Text} {e : Rejection}
    (h : parseDeclarations t = .error e) (hclosed : ¬LeavesGroupOpen t) :
    Reading.lines 1 {} (lines t) = .error e := by
  rw [parseDeclarations_eq] at h
  cases hread : Reading.lines 1 {} (lines t) with
  | error e' =>
    rw [hread] at h
    cases h
    rfl
  | ok r =>
    rw [hread] at h
    obtain ⟨decls, group⟩ := r
    cases group with
    | none => cases h
    | some g => exact absurd ⟨_, Reading.foldlM_of_lines hread, Option.some_ne_none g⟩ hclosed

/-- **Declarations are read line by line, with exact positions.**  Let `k` be the number of line
    feeds in `s` and one more.  If `s` is a list of declarations, then `s`, a line feed and `t` are
    that list followed by the one of `t`, or are refused as `t` is, `k` lines later.  If `s` is
    refused at a line, and not for a group that it leaves open, the whole is refused with the same
    line and the same text. -/
theorem declarations_line_by_line (s t : Text) :
    (∀ ds, parseDeclarations s = .ok ds →
      parseDeclarations (s ++ '\n' :: t)
        = ((parseDeclarations t).map (ds ++ ·)).mapError (Rejection.shift (s.count '\n' + 1)))
    ∧ ∀ e, parseDeclarations s = .error e → ¬LeavesGroupOpen s →
        parseDeclarations (s ++ '\n' :: t) = .error e := by
  rw [parseDeclarations_seam]
  constructor
  · intro ds hds
    have hstart : (⟨ds, none⟩ : Reading) = ({} : Reading).behind ds := by
      rw [Reading.behind, List.append_nil]
    rw [parseDeclarations_eq_ok hds, parseDeclarations_eq t]
    show (Reading.lines (1 + (s.count '\n' + 1)) ⟨ds, none⟩ (lines t)).bind _ = _
    rw [hstart, Reading.lines_shift, Reading.lines_behind]
    cases hread : Reading.lines 1 {} (lines t) with
    | error e => rfl
    | ok r =>
      refine Reading.close_behind ds (s.count '\n' + 1) fun hopen => ?_
      -- without a line no group could have been opened
      cases hl : lines t with
      | nil =>
        rw [hl] at hread
        cases hread
        exact absurd rfl hopen
      | cons l ls => exact Nat.succ_le_succ (Nat.zero_le ls.length)
  · intro e he hclosed
    rw [lines_of_parseDeclarations_error he hclosed]
    rfl

/-- A group over lines with carriage returns, in front of a declaration and in front of a group
    that is left open; and a line that is refused, with a carriage return that becomes part of its
    end. -/
theorem declarations_line_by_line_returns :
    parseDeclarations "import (\r\n\"a\"\n)\n\nvar x int".toList
        = .ok [.importing ⟨none, "\"a\"".toList⟩, .param ⟨"x".toList, "int".toList⟩]
      ∧ parseDeclarations "import (\r\n\"a\"\n)\n\nvar (\n".toList
        = .error ⟨5, unterminatedGroup⟩
      ∧ parseDeclarations "var x int\nx := 1\r\nvar (".toList = .error ⟨2, "x := 1".toList⟩ := by
  have hgroup : parseDeclarations "import (\r\n\"a\"\n)\n".toList
      = .ok [.importing ⟨none, "\"a\"".toList⟩] := by decide +kernel
  have hparam : parseDeclarations "var x int".toList
      = .ok [.param ⟨"x".toList, "int".toList⟩] := by decide +kernel
  have hopen : parseDeclarations "var (\n".toList = .error ⟨1, unterminatedGroup⟩ := by
    decide +kernel
  have hrefused : parseDeclarations "var x int\nx := 1\r".toList = .error ⟨2, "x := 1".toList⟩ := by
    decide +kernel
  have hclosed : ¬LeavesGroupOpen "var x int\nx := 1\r".toList := by
    have hnone : (lines "var x int\nx := 1\r".toList).foldlM Reading.line {} = none := by
      decide +kernel
    rintro ⟨r, hr, -⟩
    rw [hnone] at hr
    cases hr
  refine ⟨?_, ?_, ?_⟩
  · have h := (declarations_line_by_line "import (\r\n\"a\"\n)\n".toList "var x int".toList).1 _ hgroup
    rw [hparam] at h
    exact h
  · have h := (declarations_line_by_line "import (\r\n\"a\"\n)\n".toList "var (\n".toList).1 _ hgroup
    rw [hopen] at h
    exact h
  · exact (declarations_line_by_line "var x int\nx := 1\r".toList "var (".toList).2 _ hrefused hclosed

end GoTemplate
