/-
  The lines of a text, seen as a list.

  `lineSpans` cuts a text after every line feed.  The list it yields has a shape of its own
  (`Spans`): every line ends with its only line feed, except that the last may lack one.

  1. The shape is inherited by every sublist (`Spans.sublist`): a pass that only leaves lines out
     keeps it.
  2. A list of this shape is the cut of its own concatenation (`Spans.lineSpans_flatten`), so two
     passes over one body can be composed on the lists, without going through the text.  No other
     list is the cut of a text (`lineSpans_eq_iff`).

  The second half is about trimming: what stands at the ends of a trimmed line is what stands at
  the ends of the line, blanks aside.
-/
import GoTemplate.Text
import Mathlib.Data.List.Forall2

namespace GoTemplate

/-! ## The cut -/

theorem lineSpans_append_newline {l : Text} (hl : '\n' ∉ l) (t : Text) :
    lineSpans (l ++ '\n' :: t) = (l ++ ['\n']) :: lineSpans t := by
  induction l with
  | nil => rfl
  | cons c l ih =>
    rw [List.cons_append, lineSpans, if_neg (List.ne_of_not_mem_cons hl).symm,
      ih (List.not_mem_of_not_mem_cons hl)]
    rfl

theorem lineSpans_of_not_mem {l : Text} (hl : '\n' ∉ l) (hne : l ≠ []) : lineSpans l = [l] := by
  induction l with
  | nil => exact absurd rfl hne
  | cons c l ih =>
    rw [lineSpans, if_neg (List.ne_of_not_mem_cons hl).symm]
    cases l with
    | nil => rfl
    | cons a l => rw [ih (List.not_mem_of_not_mem_cons hl) (List.cons_ne_nil a l)]

/-- The shape of a cut: lines that end with their only line feed, the last possibly without. -/
inductive Spans : List Text → Prop
  | nil : Spans []
  | last {l : Text} : '\n' ∉ l → l ≠ [] → Spans [l]
  | cons {l : Text} {ls : List Text} : '\n' ∉ l → Spans ls → Spans ((l ++ ['\n']) :: ls)

theorem spans_lineSpans (t : Text) : Spans (lineSpans t) := by
  induction t with
  | nil => exact .nil
  | cons c t ih =>
    by_cases hc : c = '\n'
    · rw [lineSpans, if_pos hc, hc]
      exact Spans.cons (l := []) List.not_mem_nil ih
    · rw [lineSpans, if_neg hc]
      have hcons : ∀ {l : Text}, '\n' ∉ l → '\n' ∉ c :: l :=
        fun hl => List.not_mem_cons_of_ne_of_not_mem (Ne.symm hc) hl
      cases h : lineSpans t with
      | nil => exact .last (hcons List.not_mem_nil) (List.cons_ne_nil c [])
      | cons l ls =>
        rw [h] at ih
        cases ih with
        | last hl _ => exact .last (hcons hl) (List.cons_ne_nil c _)
        | cons hl hs => exact .cons (l := c :: _) (hcons hl) hs

/-- Leaving lines out keeps the shape. -/
theorem Spans.sublist {ls ms : List Text} (hs : Spans ls) (h : ms.Sublist ls) : Spans ms := by
  induction hs generalizing ms with
  | nil => rw [List.sublist_nil.1 h]; exact .nil
  | last hl hne =>
    rcases List.sublist_singleton.1 h with rfl | rfl
    · exact .nil
    · exact .last hl hne
  | cons hl hs ih =>
    cases h with
    | cons _ h => exact ih h
    | cons_cons _ h => exact .cons hl (ih h)

/-- **A list of the shape is the cut of its concatenation.** -/
theorem Spans.lineSpans_flatten {ls : List Text} (hs : Spans ls) : lineSpans ls.flatten = ls := by
  induction hs with
  | nil => rfl
  | last hl hne => rw [List.flatten_singleton, lineSpans_of_not_mem hl hne]
  | cons hl _ ih =>
    rw [List.flatten_cons, List.append_assoc, List.singleton_append,
      lineSpans_append_newline hl, ih]

/-- **The cut is the only list of the shape that makes up the text.** -/
theorem lineSpans_eq_iff (t : Text) (ls : List Text) :
    lineSpans t = ls ↔ ls.flatten = t ∧ Spans ls := by
  constructor
  · rintro rfl
    exact ⟨flatten_lineSpans t, spans_lineSpans t⟩
  · rintro ⟨rfl, hs⟩
    exact hs.lineSpans_flatten

/-- Lines kept from a text are the lines of what they make up. -/
theorem lineSpans_flatten_of_sublist {t : Text} {ls : List Text} (h : ls.Sublist (lineSpans t)) :
    lineSpans ls.flatten = ls :=
  ((spans_lineSpans t).sublist h).lineSpans_flatten

/-! ## Trimming -/

theorem dropEndWhile_concat (p : Char → Bool) (t : Text) (c : Char) :
    dropEndWhile p (t ++ [c]) = if p c then dropEndWhile p t else t ++ [c] := by
  simp only [dropEndWhile, List.reverse_append, List.reverse_singleton, List.singleton_append,
    List.dropWhile_cons]
  split
  · rfl
  · simp

theorem trimStart_append_cons {c : Char} (hc : isBlank c = false) (p t : Text) :
    trimStart (p ++ c :: t) = trimStart p ++ c :: t := by
  induction p with
  | nil => simp [trimStart, hc]
  | cons a p ih =>
    simp only [trimStart, List.cons_append, List.dropWhile_cons] at ih ⊢
    split
    · exact ih
    · rfl

theorem trimEnd_concat_newline {d : Char} (hd : isBlank d = false) (t : Text) :
    trimEnd (t ++ [d, '\n']) = t ++ [d] := by
  have hassoc : t ++ [d, '\n'] = (t ++ [d]) ++ ['\n'] := by simp
  rw [trimEnd, hassoc, dropEndWhile_concat, if_pos (by decide), dropEndWhile_concat]
  simp [hd]

end GoTemplate
