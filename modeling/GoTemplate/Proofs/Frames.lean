/-
  The frame of an expression.

  In an expression that stands in no other the first child opens the write call and the wrapper,
  the last child closes both, and what is between is the values of all tokens in it, however deep,
  with `raw` left out (`joined_framed`).  Expressions inside it have no frame.  A child that is a
  node opens and closes nothing, so the expression is ONE statement if the first and the last child
  are tokens (`joined_expression`).
-/
import GoTemplate.Proofs.Leaves

namespace GoTemplate

/-! ## The escape call -/

/-- The escape call takes its name from the namespace, so what is in neither that nor the rest of
    the call is not in it. -/
theorem Options.not_mem_escapeCall {o : Options} {c : Char} (h : c ∉ o.namespacePath)
    (hc : c ∉ ".HTMLEscape(".toList) : c ∉ o.escapeCall := by
  have hident : c ∈ o.namespaceIdent → c ∈ o.namespacePath := by
    intro hc
    have hquotes : c ∈ trimQuotes o.namespacePath :=
      List.mem_reverse.1 ((List.takeWhile_prefix _).mem (List.mem_reverse.1 hc))
    have hstart : c ∈ o.namespacePath.dropWhile (· == '"') :=
      List.mem_reverse.1 ((List.dropWhile_suffix _).mem (List.mem_reverse.1 hquotes))
    exact (List.dropWhile_suffix _).mem hstart
  rw [Options.escapeCall, List.mem_append]
  rintro (hmem | hmem)
  · exact h (hident hmem)
  · exact hc hmem

theorem Options.le_length_escapeCall (o : Options) : 12 ≤ o.escapeCall.length := by
  have hcall : ".HTMLEscape(".toList.length = 12 := by decide
  rw [Options.escapeCall, List.length_append, hcall]
  omega

theorem Options.length_escapeCall (o : Options) : 1 < o.escapeCall.length :=
  Nat.lt_of_lt_of_le (by decide) o.le_length_escapeCall

theorem Options.getLast?_escapeCall (o : Options) : o.escapeCall.getLast? = some '(' := by
  have hcall : o.escapeCall = o.namespaceIdent ++ ".HTMLEscape".toList ++ ['('] := by
    rw [List.append_assoc]
    rfl
  rw [hcall, List.getLast?_concat]

/-! ## The values in a tree -/

mutual

/-- The values of the tokens in a tree, in document order. -/
def Node.values : Node → List Text
  | .program children => nodesValues children
  | .markup children => childrenValues children
  | .control _ children => childrenValues children
  | .expression _ children => childrenValues children
termination_by structural n => n

/-- The values in the nodes of a program. -/
def nodesValues : List Node → List Text
  | [] => []
  | n :: rest => n.values ++ nodesValues rest
termination_by structural ns => ns

/-- The values of the tokens among some children, and those in the nodes among them. -/
def childrenValues : List Child → List Text
  | [] => []
  | .token t :: rest => t.value :: childrenValues rest
  | .node n :: rest => n.values ++ childrenValues rest
termination_by structural cs => cs

end

/-- Values one after the other, every `raw` left out. -/
def withoutRaw (values : List Text) : Text := (values.filter (· ≠ "raw".toList)).flatten

@[simp] theorem withoutRaw_nil : withoutRaw [] = [] := rfl

/-- One value more: what a token writes comes in front. -/
theorem withoutRaw_cons (v : Text) (values : List Text) :
    withoutRaw (v :: values) = shownValue v ++ withoutRaw values := by
  rw [withoutRaw, List.filter_cons, shownValue]
  by_cases hv : v = rawKeyword
  · have hdrop : decide (v ≠ "raw".toList) = false := decide_eq_false (not_not_intro hv)
    rw [hdrop, if_pos hv]
    rfl
  · have hkeep : decide (v ≠ "raw".toList) = true := decide_eq_true hv
    rw [hkeep, if_neg hv]
    rfl

theorem withoutRaw_append (us vs : List Text) :
    withoutRaw (us ++ vs) = withoutRaw us ++ withoutRaw vs := by
  rw [withoutRaw, List.filter_append, List.flatten_append]
  rfl

theorem not_mem_withoutRaw {c : Char} {values : List Text} (h : ∀ v ∈ values, c ∉ v) :
    c ∉ withoutRaw values := by
  intro hc
  obtain ⟨v, hv, hmem⟩ := List.mem_flatten.1 hc
  exact h v (List.mem_of_mem_filter hv) hmem

/-- The text that leaves of one kind make up. -/
def joined (ls : List Leaf) : Text := ls.flatMap (·.value)

theorem joined_append (ls ms : List Leaf) : joined (ls ++ ms) = joined ls ++ joined ms :=
  List.flatMap_append

section

variable (job : Job) (params : List Param)

mutual

/-- An expression with no other nodes in it has expression leaves only. -/
theorem Node.kind_of_mem_leaves (enclosing : Option Mode) : ∀ (n : Node),
    n.hasNonExpression = false → ∀ l ∈ n.leaves job params enclosing, l.kind = .expression
  | .expression _ cs, h, l, hl => kind_of_mem_expressionLeaves _ cs h l hl
  | .program _, h, _, _ => nomatch h
  | .markup _, h, _, _ => nomatch h
  | .control _ _, h, _, _ => nomatch h
termination_by structural n => n

theorem kind_of_mem_expressionLeaves (slot : Slot) : ∀ (cs : List Child),
    anyNonExpression cs = false → ∀ l ∈ expressionLeaves job params slot cs, l.kind = .expression
  | [], _, l, hl => absurd hl List.not_mem_nil
  | .token t :: rest, h, l, hl => by
    rcases List.mem_cons.1 hl with rfl | hl
    · rfl
    · exact kind_of_mem_expressionLeaves slot.succ rest h l hl
  | .node n :: rest, h, l, hl => by
    obtain ⟨hn, hrest⟩ := Bool.or_eq_false_iff.1 h
    rcases List.mem_append.1 hl with hl | hl
    · exact Node.kind_of_mem_leaves (some .expression) n hn l hl
    · exact kind_of_mem_expressionLeaves slot.succ rest hrest l hl
termination_by structural cs => cs

end

/-! ## Frames -/

/-- In an expression inside another a token is its shown value. -/
theorem Slot.value_of_nested {s : Slot} (hs : s.nested = true) (t : Token) :
    (s.leaf job params t).value = shownValue t.value := by
  have hwrapped : s.isWrapped job.options = false := by simp [Slot.isWrapped, hs]
  simp [Slot.leaf, Slot.opening, Slot.closing, Slot.escapes, hwrapped, hs]

mutual

/-- An expression inside another is its shown values. -/
theorem Node.joined_nested : ∀ (n : Node), n.hasNonExpression = false →
    joined (n.leaves job params (some .expression)) = withoutRaw n.values
  | .expression _ cs, h => joined_nested_children (Slot.first (some .expression) cs) rfl cs h
  | .program _, h => nomatch h
  | .markup _, h => nomatch h
  | .control _ _, h => nomatch h
termination_by structural n => n

theorem joined_nested_children (s : Slot) (hs : s.nested = true) : ∀ (cs : List Child),
    anyNonExpression cs = false →
    joined (expressionLeaves job params s cs) = withoutRaw (childrenValues cs)
  | [], _ => rfl
  | .token t :: rest, h => by
    rw [expressionLeaves, childrenValues, withoutRaw_cons,
      ← joined_nested_children s.succ hs rest h, ← Slot.value_of_nested job params hs]
    rfl
  | .node n :: rest, h => by
    obtain ⟨hn, hrest⟩ := Bool.or_eq_false_iff.1 h
    rw [expressionLeaves, childrenValues, joined_append, withoutRaw_append,
      Node.joined_nested n hn, joined_nested_children s.succ hs rest hrest]
termination_by structural cs => cs

end

/-- Behind the first place nothing is opened and nothing escaped. -/
theorem Slot.frame_of_pos {s : Slot} (hs : 0 < s.index) (value : Text) :
    s.opening job params value = [] ∧ s.escapes job params value = false := by
  have hfirst : s.isFirst = false := by
    rw [Slot.isFirst, beq_eq_false_iff_ne]
    exact Nat.pos_iff_ne_zero.1 hs
  constructor
  · simp [Slot.opening, Slot.escapes, hfirst]
  · simp [Slot.escapes, hfirst]

theorem Slot.leaf_of_pos {s : Slot} (hs : 0 < s.index) (t : Token) :
    s.leaf job params t = ⟨⟨.expression, shownValue t.value ++ s.closing job.options⟩, false⟩ := by
  obtain ⟨hopening, hescapes⟩ := Slot.frame_of_pos job params hs t.value
  rw [Slot.leaf, hopening, hescapes, List.nil_append]

/-- What closes a frame, wrapper first. -/
def Slot.ending (s : Slot) (o : Options) : Text :=
  (if s.isWrapped o then [')'] else []) ++ ")\n".toList

/-- The last child closes the frame, and no other does. -/
theorem Slot.closing_eq {s : Slot} (hs : s.nested = false) (o : Options) :
    s.closing o = if s.index + 1 = s.count then s.ending o else [] := by
  by_cases hlast : s.index + 1 = s.count
  · have hl : s.isLast = true := beq_iff_eq.2 hlast
    simp [Slot.closing, Slot.ending, hs, hl, hlast]
  · have hl : s.isLast = false := beq_eq_false_iff_ne.2 hlast
    simp [Slot.closing, hl, hlast]

/-- The first of some children is a token. -/
def startsWithToken (cs : List Child) : Bool := (cs.head?.bind Child.token?).isSome

/-- The last of some children is a token. -/
def endsInToken (cs : List Child) : Bool := (cs.getLast?.bind Child.token?).isSome

theorem endsInToken_token (t : Token) (cs : List Child) :
    endsInToken (.token t :: cs) = (cs.isEmpty || endsInToken cs) := by
  cases cs with
  | nil => rfl
  | cons c cs => rw [endsInToken, List.getLast?_cons_cons]; rfl

theorem endsInToken_node (n : Node) (cs : List Child) :
    endsInToken (.node n :: cs) = endsInToken cs := by
  cases cs with
  | nil => rfl
  | cons c cs => rw [endsInToken, List.getLast?_cons_cons]; rfl

/-- The children behind the first: their shown values, and the end of the frame if the last of them
    is a token. -/
theorem joined_behind_first (cs : List Child) {s : Slot} (hs : s.nested = false)
    (hpos : 0 < s.index) (hcount : s.index + cs.length = s.count)
    (hcs : anyNonExpression cs = false) :
    joined (expressionLeaves job params s cs)
      = withoutRaw (childrenValues cs)
        ++ if endsInToken cs then s.ending job.options else [] := by
  induction cs generalizing s with
  | nil => rfl
  | cons c cs ih =>
    have hpos' : 0 < s.succ.index := Nat.succ_pos s.index
    have hcount' : s.succ.index + cs.length = s.succ.count := by
      rw [List.length_cons] at hcount
      show s.index + 1 + cs.length = s.count
      omega
    cases c with
    | token t =>
      have hrest := ih (s := s.succ) hs hpos' hcount' hcs
      have hclosing : s.closing job.options = if cs = [] then s.ending job.options else [] := by
        have hlast : s.index + 1 = s.count ↔ cs = [] := by
          rw [← List.length_eq_zero_iff]
          rw [List.length_cons] at hcount
          omega
        rw [Slot.closing_eq hs]
        simp only [hlast]
      show (s.leaf job params t).value ++ joined (expressionLeaves job params s.succ cs) = _
      rw [hrest, Slot.leaf_of_pos job params hpos, childrenValues, withoutRaw_cons,
        endsInToken_token]
      cases cs with
      | nil =>
        rw [if_pos rfl] at hclosing
        simp [hclosing, childrenValues, endsInToken]
      | cons c' cs =>
        rw [if_neg (List.cons_ne_nil c' cs)] at hclosing
        rw [hclosing, List.append_nil, List.append_assoc]
        rfl
    | node n =>
      obtain ⟨hn, hcs⟩ := Bool.or_eq_false_iff.1 hcs
      have hrest := ih (s := s.succ) hs hpos' hcount' hcs
      rw [expressionLeaves, joined_append, Node.joined_nested job params n hn, hrest,
        endsInToken_node, childrenValues, withoutRaw_append, List.append_assoc]
      rfl

/-- What opens the wrapper of an expression with this first value. -/
def Job.opener (value : Text) : Text :=
  if job.options.escape then
    if needsEscape value job.dir params then job.options.escapeCall else ['(']
  else []

/-- What closes the wrapper. -/
def Options.closer (o : Options) : Text := if o.escape then [')'] else []

/-- What opens the frame: the first child, if it is a token. -/
def Job.frameStart : List Child → Text
  | .token t :: _ => writeCall ++ job.opener params t.value
  | _ => []

/-- What closes the frame: the last child, if it is a token. -/
def Options.frameEnd (o : Options) (cs : List Child) : Text :=
  if endsInToken cs then o.closer ++ ")\n".toList else []

/-- **The text of an expression that stands in no other**: its shown values, with the frame open
    in front if the first child is a token, and closed behind if the last child is one. -/
theorem joined_framed {enclosing : Option Mode} (he : enclosing ≠ some .expression)
    (tagName : Text) (cs : List Child) (hcs : anyNonExpression cs = false) :
    joined ((Node.expression tagName cs).leaves job params enclosing)
      = job.frameStart params cs ++ withoutRaw (childrenValues cs)
        ++ job.options.frameEnd cs := by
  have hs : (Slot.first enclosing cs).nested = false := by simp [Slot.first, he]
  have hhom : (Slot.first enclosing cs).homogeneous = true := by
    show (!anyNonExpression cs) = true
    rw [hcs]
    rfl
  have hindex : (Slot.first enclosing cs).index = 0 := rfl
  have hcount : (Slot.first enclosing cs).count = cs.length := rfl
  -- from here on only these four facts about the slot matter
  rw [Node.leaves]
  generalize Slot.first enclosing cs = s at hs hhom hindex hcount
  have hwrapped : s.isWrapped job.options = job.options.escape := by
    simp [Slot.isWrapped, hs, hhom]
  have hending : s.ending job.options = job.options.closer ++ ")\n".toList := by
    rw [Slot.ending, hwrapped, Options.closer]
  have htail : ∀ c rest, cs = c :: rest → anyNonExpression rest = false →
      joined (expressionLeaves job params s.succ rest)
        = withoutRaw (childrenValues rest) ++ job.options.frameEnd rest := by
    rintro c rest rfl hrest
    have hcount' : s.succ.index + rest.length = s.succ.count := by
      rw [List.length_cons] at hcount
      show s.index + 1 + rest.length = s.count
      omega
    have hbehind := joined_behind_first job params rest (s := s.succ) hs (Nat.succ_pos s.index)
      hcount' hrest
    rw [hbehind, show s.succ.ending job.options = s.ending job.options from rfl, hending]
    rfl
  cases cs with
  | nil => rfl
  | cons c rest =>
    cases c with
    | node n =>
      -- a node in front opens nothing
      obtain ⟨hn, hrest⟩ := Bool.or_eq_false_iff.1 hcs
      rw [expressionLeaves, joined_append, Node.joined_nested job params n hn,
        htail _ rest rfl hrest, Options.frameEnd, Options.frameEnd, endsInToken_node,
        childrenValues, withoutRaw_append]
      simp [Job.frameStart]
    | token t =>
      have hopening : s.opening job params t.value = writeCall ++ job.opener params t.value := by
        have hfirst : s.isFirst = true := beq_iff_eq.2 hindex
        simp only [Slot.opening, Slot.escapes, Job.opener, hs, hwrapped, hfirst]
        cases job.options.escape <;> simp
      have hclosing := Slot.closing_eq hs job.options
      show s.opening job params t.value ++ shownValue t.value ++ s.closing job.options
        ++ joined (expressionLeaves job params s.succ rest) = _
      rw [htail _ rest rfl hcs, childrenValues, withoutRaw_cons, Options.frameEnd,
        Options.frameEnd, endsInToken_token, hopening]
      -- the frame closes on the first child if it is the only one, and behind the others if not
      cases rest with
      | nil =>
        rw [if_pos (by rw [hindex, hcount]; rfl), hending] at hclosing
        simp [hclosing, Job.frameStart, childrenValues, endsInToken]
      | cons c' rest =>
        have hlast : s.index + 1 ≠ s.count := by
          rw [hindex, hcount, List.length_cons, List.length_cons]
          omega
        rw [if_neg hlast] at hclosing
        simp [hclosing, Job.frameStart]

/-- **An expression between two tokens that stands in no other is one write statement.** -/
theorem joined_expression {enclosing : Option Mode} (he : enclosing ≠ some .expression)
    (tagName : Text) (t : Token) (rest : List Child) (hrest : anyNonExpression rest = false)
    (hend : endsInToken (.token t :: rest) = true) :
    joined ((Node.expression tagName (.token t :: rest)).leaves job params enclosing)
      = writeStatement (job.opener params t.value
          ++ withoutRaw (childrenValues (.token t :: rest)) ++ job.options.closer) := by
  rw [joined_framed job params he tagName (.token t :: rest) hrest, Options.frameEnd,
    if_pos hend, Job.frameStart, writeStatement]
  simp only [List.append_assoc]

end

end GoTemplate
