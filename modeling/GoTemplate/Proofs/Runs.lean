/-
  A buffer is the run-length form of what was pushed into it.

  `Buffer.push` glues at the end, one piece after the other.  `runs` says the same from the front:
  the pieces in order, neighbours of one kind joined.  The two agree piece by piece
  (`runs_concat`), and `runs` is the form that later proofs recurse on.

  Two kinds of text come out of a buffer.  Expressions are written as they are, so joining them
  is invisible (`flatten_cons_expression`); a run of literals becomes ONE write statement, or
  nothing if it holds line feeds only (`render_literal`).  A write statement, on a line that may
  begin with other text, is a line that no region pass takes for a header, and how a region goes
  on after it depends on the text before it alone (`indistinct_writeStatement`).
-/
import GoTemplate.Fragment
import GoTemplate.Proofs.Literal
import GoTemplate.Proofs.Regions
import Mathlib.Data.List.TakeWhile

namespace GoTemplate

/-! ## Runs -/

/-- One more piece at the front, joined to the first fragment if that is of its kind. -/
def Buffer.cons (f : Fragment) : Buffer → Buffer
  | [] => [f]
  | g :: b => if f.kind = g.kind then ⟨f.kind, f.value ++ g.value⟩ :: b else f :: g :: b

/-- Pieces in order, neighbours of one kind joined. -/
def runs (fs : List Fragment) : Buffer := fs.foldr Buffer.cons []

theorem Buffer.push_cons (f : Fragment) (b : Buffer) (k : FragmentKind) (v : Text) :
    (Buffer.cons f b).push k v = Buffer.cons f (b.push k v) := by
  match b with
  | [] =>
    by_cases h : f.kind = k
    · simp [Buffer.cons, Buffer.push, h]
    · simp [Buffer.cons, Buffer.push, h]
  | [g] =>
    by_cases hg : f.kind = g.kind
    · by_cases hk : g.kind = k
      · simp [Buffer.cons, Buffer.push, hg, hk]
      · simp [Buffer.cons, Buffer.push, hg, hk]
    · by_cases hk : g.kind = k
      · have hf : f.kind ≠ k := fun h => hg (h.trans hk.symm)
        simp [Buffer.cons, Buffer.push, hk, hf]
      · simp [Buffer.cons, Buffer.push, hg, hk]
  | g :: h :: b =>
    by_cases hg : f.kind = g.kind
    · simp [Buffer.cons, Buffer.push, hg]
    · simp [Buffer.cons, Buffer.push, hg]

/-- **A push at the end yields the runs of one piece more.** -/
theorem runs_concat (fs : List Fragment) (f : Fragment) :
    runs (fs ++ [f]) = (runs fs).push f.kind f.value := by
  induction fs with
  | nil => rfl
  | cons g fs ih =>
    show Buffer.cons g (runs (fs ++ [f])) = (Buffer.cons g (runs fs)).push f.kind f.value
    rw [ih, Buffer.push_cons]

theorem Buffer.push_ne_nil (b : Buffer) (k : FragmentKind) (v : Text) : b.push k v ≠ [] := by
  match b with
  | [] => exact List.cons_ne_nil _ _
  | [f] => rw [Buffer.push]; split <;> exact List.cons_ne_nil _ _
  | f :: g :: b => exact List.cons_ne_nil _ _

theorem Buffer.push_of_ne_nil (f : Fragment) {b : Buffer} (hb : b ≠ []) (k : FragmentKind)
    (v : Text) : Buffer.push (f :: b) k v = f :: b.push k v := by
  cases b with
  | nil => exact absurd rfl hb
  | cons g b => rfl

/-- Two pieces of one kind are pushed as one. -/
theorem Buffer.push_push (b : Buffer) (k : FragmentKind) (v w : Text) :
    (b.push k v).push k w = b.push k (v ++ w) := by
  match b with
  | [] => simp [Buffer.push]
  | [f] =>
    by_cases h : f.kind = k
    · simp [Buffer.push, h]
    · simp [Buffer.push, h]
  | f :: g :: b =>
    show Buffer.push (f :: Buffer.push (g :: b) k v) k w = f :: Buffer.push (g :: b) k (v ++ w)
    rw [Buffer.push_of_ne_nil f (Buffer.push_ne_nil (g :: b) k v), Buffer.push_push (g :: b) k v w]

/-! ## The text of runs -/

/-- Joining expressions does not show in the text. -/
theorem flatten_cons_expression (v : Text) (b : Buffer) :
    Buffer.flatten (Buffer.cons ⟨.expression, v⟩ b) = v ++ b.flatten := by
  cases b with
  | nil => rfl
  | cons g b =>
    obtain ⟨k, w⟩ := g
    by_cases h : FragmentKind.expression = k
    · subst h
      simp [Buffer.cons, Buffer.flatten, Fragment.render]
    · simp [Buffer.cons, Buffer.flatten, Fragment.render, h]

/-- A write statement with an argument, up to and with its line feed. -/
def writeStatement (arg : Text) : Text := writeCall ++ arg ++ ")\n".toList

/-- A text has ink if something other than line feeds is in it. -/
def hasInk (t : Text) : Bool := t.any (· != '\n')

theorem hasInk_append (s t : Text) : hasInk (s ++ t) = (hasInk s || hasInk t) := List.any_append

/-- A text without its trailing line feeds. -/
def stripNewlines (t : Text) : Text := dropEndWhile (· == '\n') t

theorem stripNewlines_eq_nil_iff (t : Text) : stripNewlines t = [] ↔ hasInk t = false := by
  simp [stripNewlines, dropEndWhile, hasInk, List.dropWhile_eq_nil_iff]

/-- What is stripped are the line feeds at the end, and all of them. -/
theorem stripNewlines_spec (t : Text) : (stripNewlines t).getLast? ≠ some '\n'
    ∧ ∃ feeds, t = stripNewlines t ++ List.replicate feeds '\n' := by
  constructor
  · intro hlast
    rw [stripNewlines, dropEndWhile, List.getLast?_reverse] at hlast
    have hnot := List.head?_dropWhile_not (· == '\n') t.reverse
    rw [hlast] at hnot
    exact absurd hnot (by decide)
  · have hfeeds : t.reverse.takeWhile (· == '\n')
        = List.replicate (t.reverse.takeWhile (· == '\n')).length '\n' := by
      apply List.eq_replicate_of_mem
      intro c hc
      have hfeed := List.mem_takeWhile_imp hc
      exact eq_of_beq hfeed
    refine ⟨(t.reverse.takeWhile (· == '\n')).length, ?_⟩
    calc t = (t.reverse.takeWhile (· == '\n') ++ t.reverse.dropWhile (· == '\n')).reverse := by
          rw [List.takeWhile_append_dropWhile, List.reverse_reverse]
      _ = stripNewlines t ++ (t.reverse.takeWhile (· == '\n')).reverse := List.reverse_append
      _ = _ := by rw [hfeeds, List.reverse_replicate, List.length_replicate]

/-- **A run of literals is one write statement**, or nothing if it has no ink. -/
theorem render_literal (v : Text) :
    Fragment.render ⟨.literal, v⟩
      = if hasInk v then writeStatement (Go.quote (stripNewlines v)) else [] := by
  by_cases h : hasInk v = true
  · have hne : stripNewlines v ≠ [] := fun h' => by
      rw [(stripNewlines_eq_nil_iff v).1 h'] at h
      exact absurd h (by decide)
    rw [if_pos h]
    obtain ⟨c, t, ht⟩ := List.exists_cons_of_ne_nil hne
    rw [stripNewlines] at ht
    simp only [Fragment.render, writeStatement, stripNewlines, ht]
  · have hnil := (stripNewlines_eq_nil_iff v).2 (eq_false_of_ne_true h)
    rw [stripNewlines] at hnil
    rw [if_neg h]
    simp only [Fragment.render, hnil]

/-! ## Write statements as lines -/

theorem trim_writeStatement (p arg : Text) :
    trim (p ++ writeStatement arg) = trimStart p ++ (writeCall ++ arg ++ [')']) := by
  have hend : p ++ writeStatement arg
      = p ++ '_' :: ("buffer.WriteString(".toList ++ arg ++ [')', '\n']) := rfl
  rw [trim, hend, trimStart_append_cons (by decide), ← List.cons_append, ← List.append_assoc,
    trimEnd_concat_newline (by decide), List.append_assoc]
  rfl

/-- A write statement ends its line, whatever stands before it. -/
theorem lineSpans_writeStatement {p arg : Text} (hp : '\n' ∉ p) (ha : '\n' ∉ arg) (s : Text) :
    lineSpans (p ++ (writeStatement arg ++ s)) = (p ++ writeStatement arg) :: lineSpans s := by
  have hline : '\n' ∉ p ++ (writeCall ++ (arg ++ [')'])) := by
    have hcall : '\n' ∉ writeCall := by decide
    simp [hp, ha, hcall]
  have hcut : p ++ (writeStatement arg ++ s) = p ++ (writeCall ++ (arg ++ [')'])) ++ '\n' :: s := by
    simp [writeStatement]
  rw [hcut, lineSpans_append_newline hline]
  simp [writeStatement]

/-- A line that ends with a write statement opens no region. -/
theorem header?_writeStatement (keyword p arg : Text) :
    header? keyword (trim (p ++ writeStatement arg)) = none := by
  refine header?_of_getLast? (c := ')') ?_ (by decide)
  rw [trim_writeStatement, ← List.append_assoc, List.getLast?_concat]

/-- **The argument of a write statement is invisible to the region passes**: only the text before
    it on its line counts. -/
theorem indistinct_writeStatement (p arg arg' : Text) :
    Indistinct (p ++ writeStatement arg) (p ++ writeStatement arg') where
  next r := by
    have hlast : ∀ a : Text, (trim (p ++ writeStatement a)).getLast? = some ')' := fun a => by
      rw [trim_writeStatement, ← List.append_assoc, List.getLast?_concat]
    have hhead : (trim (p ++ writeStatement arg)).head?
        = (trim (p ++ writeStatement arg')).head? := by
      rw [trim_writeStatement, trim_writeStatement]
      cases trimStart p <;> rfl
    simp only [OpenRegion.next?, hlast, hhead]
  header k := by rw [header?_writeStatement, header?_writeStatement]

end GoTemplate
