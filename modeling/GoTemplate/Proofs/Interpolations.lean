/-
  An interpolation and its write statement.

  Take an expression with no other nodes in it that stands in no other and has a token somewhere.
  Whatever the draft, the walk adds ONE piece of expression text: the values of all tokens, `raw`
  left out, with the frame opened by the first child and closed by the last.  Both do so only as
  tokens.  Hence the text is a complete write statement exactly if there is a token at each end
  (`interpolation_complete_iff`).

  1. The walk adds the leaves one by one, and leaves of one kind end up as one piece
     (`Draft.takeAll_parts_expression`).
  2. What the leaves say together is in `joined_framed`.
  3. An end of the frame that is missing shows in the LENGTH of the text, whatever the values are
     and whichever wrapper was opened (`not_completeWrite_of_no_start`,
     `not_completeWrite_of_no_end`).
-/
import GoTemplate.Proofs.Frames

namespace GoTemplate

/-! ## Complete write statements -/

/-- What may open the wrapper: the escape call or a parenthesis, and nothing without escaping. -/
def Options.openers (o : Options) : List Text := if o.escape then [o.escapeCall, ['(']] else [[]]

/-- A text is a write statement with `shown` in it, the wrapper right inside the write call. -/
def CompleteWrite (o : Options) (shown text : Text) : Prop :=
  ∃ opener ∈ o.openers, text = writeStatement (opener ++ shown ++ o.closer)

/-! ## One piece of text -/

section

variable (job : Job) (params : List Param)

mutual

/-- An expression with no other nodes in it has a leaf for every value. -/
theorem Node.length_leaves (enclosing : Option Mode) : ∀ (n : Node), n.hasNonExpression = false →
    (n.leaves job params enclosing).length = n.values.length
  | .expression _ cs, h => length_expressionLeaves (Slot.first enclosing cs) cs h
  | .program _, h => nomatch h
  | .markup _, h => nomatch h
  | .control _ _, h => nomatch h
termination_by structural n => n

theorem length_expressionLeaves (slot : Slot) : ∀ (cs : List Child), anyNonExpression cs = false →
    (expressionLeaves job params slot cs).length = (childrenValues cs).length
  | [], _ => rfl
  | .token _ :: rest, h => congrArg (· + 1) (length_expressionLeaves slot.succ rest h)
  | .node n :: rest, h => by
    obtain ⟨hn, hrest⟩ := Bool.or_eq_false_iff.1 h
    rw [expressionLeaves, childrenValues, List.length_append, List.length_append,
      Node.length_leaves (some .expression) n hn, length_expressionLeaves slot.succ rest hrest]
termination_by structural cs => cs

end

/-- Leaves of expressions are added as one piece. -/
theorem Draft.takeAll_parts_expression (d : Draft) {ls : List Leaf} (hne : ls ≠ [])
    (hkind : ∀ l ∈ ls, l.kind = .expression) :
    (d.takeAll job ls).parts = d.parts.push .expression (joined ls) := by
  induction ls generalizing d with
  | nil => exact absurd rfl hne
  | cons l ls ih =>
    have hl : (d.take job l).parts = d.parts.push .expression l.value := by
      rw [← hkind l List.mem_cons_self]
      rfl
    have hjoined : joined (l :: ls) = l.value ++ joined ls := rfl
    show ((d.take job l).takeAll job ls).parts = _
    by_cases hnil : ls = []
    · rw [hjoined, hnil]
      exact hl.trans (by simp [joined])
    · rw [ih (d.take job l) hnil (fun l' hl' => hkind l' (List.mem_cons_of_mem l hl')), hl,
        Buffer.push_push, hjoined]

/-- The walk over an expression adds one piece of expression text. -/
theorem Job.visit_interpolation (d : Draft) {enclosing : Option Mode}
    (he : enclosing ≠ some .expression) (tagName : Text) {cs : List Child}
    (hhom : (Node.expression tagName cs).hasNonExpression = false)
    (htoken : (Node.expression tagName cs).values ≠ []) :
    ∃ d', job.visit enclosing (.expression tagName cs) d = .ok d'
      ∧ d'.parts = d.parts.push .expression (job.frameStart d.params cs
          ++ withoutRaw (childrenValues cs) ++ job.options.frameEnd cs) := by
  have hne : (Node.expression tagName cs).leaves job d.params enclosing ≠ [] := by
    intro hnil
    have hlength := Node.length_leaves job d.params enclosing _ hhom
    rw [hnil] at hlength
    exact htoken (List.length_eq_zero_iff.1 hlength.symm)
  refine ⟨_, job.visit_expression enclosing tagName cs d, ?_⟩
  have hkind := Node.kind_of_mem_leaves job d.params enclosing _ hhom
  rw [Draft.takeAll_parts_expression job _ hne hkind, joined_framed job d.params he tagName cs hhom]

end

/-! ## Both ends of the frame -/

theorem Job.opener_mem_openers (job : Job) (params : List Param) (value : Text) :
    job.opener params value ∈ job.options.openers := by
  rw [Job.opener, Options.openers]
  cases job.options.escape with
  | false => exact List.mem_singleton.2 rfl
  | true =>
    cases needsEscape value job.dir params with
    | false => exact List.mem_cons_of_mem _ (List.mem_singleton.2 rfl)
    | true => exact List.mem_cons_self

theorem Job.frameStart_of_token (job : Job) (params : List Param) {cs : List Child}
    (h : startsWithToken cs = true) :
    ∃ opener ∈ job.options.openers, job.frameStart params cs = writeCall ++ opener := by
  cases cs with
  | nil => cases h
  | cons c rest =>
    cases c with
    | node n => cases h
    | token t => exact ⟨_, job.opener_mem_openers params t.value, rfl⟩

theorem Job.frameStart_of_not_token (job : Job) (params : List Param) {cs : List Child}
    (h : startsWithToken cs = false) : job.frameStart params cs = [] := by
  cases cs with
  | nil => rfl
  | cons c rest =>
    cases c with
    | node n => rfl
    | token t => cases h

/-- The text is no complete statement if the start of the frame is missing, so that at most three
    characters stand around the values. -/
theorem not_completeWrite_of_no_start {o : Options} {shown text : Text}
    (h : text.length ≤ shown.length + 3) : ¬ CompleteWrite o shown text := by
  rintro ⟨opener, _, rfl⟩
  have hcall : writeCall.length = 20 := by decide
  simp only [writeStatement, List.length_append, hcall] at h
  omega

/-- Nor if its end is missing: the two openers differ in length by more than the end takes. -/
theorem not_completeWrite_of_no_end {o : Options} {shown opener : Text}
    (hopener : opener ∈ o.openers) : ¬ CompleteWrite o shown (writeCall ++ opener ++ shown) := by
  rintro ⟨opener', hopener', htext⟩
  have hlength := congrArg List.length htext
  have hend : ")\n".toList.length = 2 := by decide
  have hcall := o.le_length_escapeCall
  simp only [writeStatement, List.length_append, hend] at hlength
  rw [Options.openers] at hopener hopener'
  cases he : o.escape with
  | false =>
    simp only [he, Bool.false_eq_true, if_false, List.mem_singleton] at hopener hopener'
    rw [hopener, hopener'] at hlength
    omega
  | true =>
    have hcloser : o.closer.length = 1 := by simp [Options.closer, he]
    have hparen : (['('] : Text).length = 1 := rfl
    simp only [he, if_true, List.mem_cons, List.not_mem_nil, or_false] at hopener hopener'
    rcases hopener with rfl | rfl <;> rcases hopener' with rfl | rfl <;> omega

theorem Options.length_frameEnd_le (o : Options) (cs : List Child) :
    (o.frameEnd cs).length ≤ 3 := by
  rw [Options.frameEnd, Options.closer]
  cases endsInToken cs <;> cases o.escape <;> decide

/-! ## Interpolations -/

/-- **An interpolation is one complete write statement exactly if it has a token at each end.** -/
theorem interpolation_complete_iff (job : Job) (d : Draft) {enclosing : Option Mode}
    (he : enclosing ≠ some .expression) (tagName : Text) {cs : List Child}
    (hhom : (Node.expression tagName cs).hasNonExpression = false)
    (htoken : (Node.expression tagName cs).values ≠ []) :
    let shown := withoutRaw (Node.expression tagName cs).values
    ∃ text d', job.visit enclosing (.expression tagName cs) d = .ok d'
      ∧ d'.parts = d.parts.push .expression text
      ∧ text = job.frameStart d.params cs ++ shown ++ job.options.frameEnd cs
      ∧ (CompleteWrite job.options shown text
          ↔ startsWithToken cs = true ∧ endsInToken cs = true) := by
  intro shown
  obtain ⟨d', hvisit, hparts⟩ := job.visit_interpolation d he tagName hhom htoken
  refine ⟨job.frameStart d.params cs ++ shown ++ job.options.frameEnd cs, d', hvisit, hparts,
    rfl, ?_⟩
  cases hstart : startsWithToken cs with
  | false =>
    have hshort : (job.frameStart d.params cs ++ shown ++ job.options.frameEnd cs).length
        ≤ shown.length + 3 := by
      have hend := job.options.length_frameEnd_le cs
      rw [job.frameStart_of_not_token d.params hstart, List.nil_append, List.length_append]
      omega
    exact ⟨fun h => absurd h (not_completeWrite_of_no_start hshort), fun h => nomatch h.1⟩
  | true =>
    obtain ⟨opener, hopener, hframe⟩ := job.frameStart_of_token d.params hstart
    rw [hframe, Options.frameEnd]
    cases hend : endsInToken cs with
    | false =>
      rw [if_neg Bool.false_ne_true, List.append_nil]
      exact ⟨fun h => absurd h (not_completeWrite_of_no_end hopener), fun h => nomatch h.2⟩
    | true =>
      refine ⟨fun _ => ⟨rfl, rfl⟩, fun _ => ⟨opener, hopener, ?_⟩⟩
      rw [if_pos rfl, writeStatement]
      simp only [List.append_assoc]

/-- A token that is no marker. -/
def word (text : Text) : Child := .token ⟨.other "IDENTIFIER".toList, text⟩

/-- A call with an expression for its argument. -/
def callNested : List Child :=
  [word "raw".toList, word "f(".toList, .node (.expression [] [word "b".toList]), word [')']]

/-- An expression in the middle does not get in the way. -/
theorem interpolation_complete_callNested :
    some Mode.markup ≠ some .expression
      ∧ (Node.expression [] callNested).hasNonExpression = false
      ∧ (Node.expression [] callNested).values ≠ []
      ∧ ∃ text d', (Job.ofPath "home/index.gohtml".toList {}).visit (some .markup)
            (.expression [] callNested) {} = .ok d'
          ∧ d'.parts = Buffer.push [] .expression text
          ∧ CompleteWrite {} "f(b)".toList text := by
  have he : some Mode.markup ≠ some .expression := by decide
  have hhom : (Node.expression [] callNested).hasNonExpression = false := by decide
  have htoken : (Node.expression [] callNested).values ≠ [] := List.cons_ne_nil _ _
  obtain ⟨text, d', hvisit, hparts, -, hiff⟩ :=
    interpolation_complete_iff (Job.ofPath "home/index.gohtml".toList {}) {} he [] hhom htoken
  exact ⟨he, hhom, htoken, text, d', hvisit, hparts, hiff.2 ⟨by decide, by decide⟩⟩

/-- A selection from an expression. -/
def selectNested : Node :=
  .expression [] [.node (.expression [] [word "user".toList]), word ['.'], word "Name".toList]

/-- An expression in front leaves the statement without its start: only the end is written. -/
theorem nested_head_leaves_no_start :
    selectNested.hasNonExpression = false ∧ selectNested.values ≠ []
      ∧ ((Job.ofPath "home/index.gohtml".toList { escape := false }).visit (some .markup)
          selectNested {}).map Draft.parts = .ok (Buffer.push [] .expression "user.Name)\n".toList)
      ∧ ¬ CompleteWrite { escape := false } (withoutRaw selectNested.values)
          "user.Name)\n".toList := by
  refine ⟨by decide, List.cons_ne_nil _ _, by decide +kernel, ?_⟩
  exact not_completeWrite_of_no_start (by decide)

end GoTemplate
