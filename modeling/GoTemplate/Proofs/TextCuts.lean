/-
  Where a text is cut.

  The readers cut texts at their ends (`after?`, `before?`), at the LAST mark of a kind (`cutLast?`,
  `afterLast`), and off their line ends (`chomp`).  Here each cut is tied to the text put together
  again, so that later proofs go on with `x ++ mark :: y` and do not open the functions.

  1. A text with a mark is what stands before the last one, the mark, and a text without it
     (`exists_last_of_mem`).  The pieces between all marks are cut from there
     (`splitOn_append_cons`).
  2. A line end is nothing, a line feed, or a carriage return and a line feed (`exists_lineEnd`).
     All of it is blank, so what takes no notice of a blank at the end takes none of a line end
     (`apply_chomp`).
-/
import GoTemplate.Proofs.Spans
import Mathlib.Data.List.TakeWhile

namespace GoTemplate

/-! ## Heads and tails -/

theorem eq_append_of_after? {lead t rest : Text} (h : after? lead t = some rest) :
    t = lead ++ rest := by
  induction lead generalizing t with
  | nil => cases h; rfl
  | cons a lead ih =>
    cases t with
    | nil => nomatch h
    | cons c t =>
      rw [after?] at h
      split at h
      · next hac => rw [hac, List.cons_append, ← ih h]
      · nomatch h

theorem eq_append_of_before? {tail t front : Text} (h : before? tail t = some front) :
    t = front ++ tail := by
  obtain ⟨r, hr, rfl⟩ := Option.map_eq_some_iff.1 h
  have ht := congrArg List.reverse (eq_append_of_after? hr)
  simpa using ht

theorem after?_append (lead t : Text) : after? lead (lead ++ t) = some t := by
  induction lead with
  | nil => rfl
  | cons a lead ih => rw [List.cons_append, after?, if_pos rfl, ih]

theorem before?_append (front tail : Text) : before? tail (front ++ tail) = some front := by
  rw [before?, List.reverse_append, after?_append, Option.map_some, List.reverse_reverse]

/-! ## The last mark -/

section

variable {mark : Char} {x y t : Text}

theorem exists_last_of_mem (h : mark ∈ t) : ∃ x y, t = x ++ mark :: y ∧ mark ∉ y := by
  obtain ⟨a, b, hab, ha⟩ := List.eq_append_cons_of_mem (List.mem_reverse.2 h)
  refine ⟨b.reverse, a.reverse, ?_, fun hmem => ha (List.mem_reverse.1 hmem)⟩
  rw [← List.reverse_reverse t, hab]
  simp

theorem ne_of_not_mem_reverse (h : mark ∉ y) : ∀ c ∈ y.reverse, (c != mark) = true := by
  intro c hc
  rw [bne_iff_ne]
  rintro rfl
  exact h (List.mem_reverse.1 hc)

theorem cutLast?_append (h : mark ∉ y) : cutLast? mark (x ++ mark :: y) = some (x, y) := by
  have hrev : (x ++ mark :: y).reverse = y.reverse ++ mark :: x.reverse := by simp
  rw [cutLast?, hrev, List.dropWhile_append_of_pos (ne_of_not_mem_reverse h),
    List.takeWhile_append_of_pos (ne_of_not_mem_reverse h)]
  simp

theorem cutLast?_of_not_mem (h : mark ∉ t) : cutLast? mark t = none := by
  rw [cutLast?, List.dropWhile_eq_nil_iff.2 (ne_of_not_mem_reverse h)]

theorem afterLast_append (h : mark ∉ y) : afterLast mark (x ++ mark :: y) = y := by
  have hrev : (x ++ mark :: y).reverse = y.reverse ++ mark :: x.reverse := by simp
  rw [afterLast, hrev, List.takeWhile_append_of_pos (ne_of_not_mem_reverse h)]
  simp

theorem afterLast_of_not_mem (h : mark ∉ t) : afterLast mark t = t := by
  rw [afterLast, List.takeWhile_eq_self_iff.2 (ne_of_not_mem_reverse h), List.reverse_reverse]

theorem splitOn_of_not_mem (h : mark ∉ t) : t.splitOn mark = [t] := by
  rw [List.splitOn_eq_splitOnP]
  refine List.splitOnP_eq_singleton fun c hc => ?_
  rw [beq_eq_false_iff_ne]
  rintro rfl
  exact h hc

/-- A mark cuts the pieces in two lists. -/
theorem splitOn_append_cons (mark : Char) (x y : Text) :
    (x ++ mark :: y).splitOn mark = x.splitOn mark ++ y.splitOn mark := by
  rw [List.splitOn_eq_splitOnP, List.splitOn_eq_splitOnP, List.splitOn_eq_splitOnP]
  exact List.splitOnP_append_cons x y (beq_self_eq_true mark)

theorem splitOn_append (h : mark ∉ y) : (x ++ mark :: y).splitOn mark = x.splitOn mark ++ [y] := by
  rw [splitOn_append_cons, splitOn_of_not_mem h]

/-- The last piece of a text is what follows the last mark. -/
theorem getLast?_splitOn (mark : Char) (t : Text) :
    (t.splitOn mark).getLast? = some (afterLast mark t) := by
  by_cases h : mark ∈ t
  · obtain ⟨x, y, rfl, hy⟩ := exists_last_of_mem h
    rw [splitOn_append hy, List.getLast?_concat, afterLast_append hy]
  · rw [splitOn_of_not_mem h, afterLast_of_not_mem h]
    rfl

end

/-! ## Line ends -/

theorem chomp_of_not_mem {l : Text} (hl : '\n' ∉ l) : chomp l = l := by
  rw [chomp]
  cases hb : before? ['\n'] l with
  | none => rfl
  | some front => exact absurd (eq_append_of_before? hb ▸ by simp) hl

/-- A line with a line feed keeps all of its text but perhaps one carriage return. -/
theorem chomp_concat (l : Text) :
    chomp (l ++ ['\n']) = l ∨ ∃ front, l = front ++ ['\r'] ∧ chomp (l ++ ['\n']) = front := by
  rw [chomp, before?_append]
  cases hr : before? ['\r'] l with
  | none => exact .inl (by simp [hr])
  | some front => exact .inr ⟨front, eq_append_of_before? hr, by simp [hr]⟩

/-- What is taken off a line is nothing, a line feed, or a carriage return and a line feed. -/
theorem exists_lineEnd (span : Text) :
    ∃ e, span = chomp span ++ e ∧ (e = [] ∨ e = ['\n'] ∨ e = ['\r', '\n']) := by
  cases hfeed : before? ['\n'] span with
  | none =>
    have hself : chomp span = span := by rw [chomp, hfeed]
    exact ⟨[], by rw [hself, List.append_nil], .inl rfl⟩
  | some l =>
    rw [eq_append_of_before? hfeed]
    rcases chomp_concat l with hchomp | ⟨front, rfl, hchomp⟩
    · exact ⟨['\n'], by rw [hchomp], .inr (.inl rfl)⟩
    · exact ⟨['\r', '\n'], by rw [hchomp, List.append_assoc]; rfl, .inr (.inr rfl)⟩

/-- **What takes no notice of a blank at the end takes none of a line end.** -/
theorem apply_chomp {α : Type} {f : Text → α}
    (h : ∀ (l : Text) {c : Char}, isBlank c = true → f (l ++ [c]) = f l) (span : Text) :
    f (chomp span) = f span := by
  obtain ⟨e, hspan, he⟩ := exists_lineEnd span
  generalize chomp span = l at hspan
  rw [hspan]
  rcases he with rfl | rfl | rfl
  · rw [List.append_nil]
  · rw [h l (by decide)]
  · rw [List.append_cons, h (l ++ ['\r']) (by decide), h l (by decide)]

/-- A text without a line feed, and without a carriage return at its end, is the line that ends
    behind it. -/
theorem lines_append_newline {l : Text} (hnewline : '\n' ∉ l) (hreturn : l.getLast? ≠ some '\r')
    (t : Text) : lines (l ++ '\n' :: t) = l :: lines t := by
  have hchomp : chomp (l ++ ['\n']) = l := by
    rcases chomp_concat l with hchomp | ⟨front, rfl, -⟩
    · exact hchomp
    · exact absurd List.getLast?_concat hreturn
  rw [lines, lineSpans_append_newline hnewline, List.map_cons, hchomp, lines]

end GoTemplate
