/-
  Replacing one node of a tree.

  A CONTEXT is a tree with a hole; `Context.plug` puts a node there.  Two nodes whose leaves have
  the same effect on every draft can be exchanged in any context, and compilation does not notice
  (`Context.compile_plug`).

  What a node's leaves are depends on the mode of the node around it and on the parameters in
  force.  The parameters are those the diverted node declares, EXCEPT inside that node, where
  there are none yet; `Job.paramsAt` says which, and `Context.diverted_or_body` splits the proof
  the same way: the hole is in the diverted node or in the body.
-/
import GoTemplate.Proofs.RequiredImports

namespace GoTemplate

/-! ## Leaves with the same effect -/

/-- Two lists of leaves that do the same to every draft. -/
def SameEffect (job : Job) (ls ls' : List Leaf) : Prop :=
  ∀ d : Draft, d.takeAll job ls = d.takeAll job ls'

theorem SameEffect.refl (job : Job) (ls : List Leaf) : SameEffect job ls ls := fun _ => rfl

theorem SameEffect.append {job : Job} {ls ls' ms ms' : List Leaf} (hl : SameEffect job ls ls')
    (hm : SameEffect job ms ms') : SameEffect job (ls ++ ms) (ls' ++ ms') := by
  intro d
  rw [Draft.takeAll_append, Draft.takeAll_append, hl d, hm]

theorem SameEffect.cons {job : Job} {ls ls' : List Leaf} (l : Leaf) (h : SameEffect job ls ls') :
    SameEffect job (l :: ls) (l :: ls') := fun d => h (d.take job l)

theorem SameEffect.leavesText_eq {job : Job} {ls ls' : List Leaf} (h : SameEffect job ls ls') :
    leavesText ls = leavesText ls' := by
  have hparts := congrArg Draft.parts (h (Draft.fresh job))
  rw [Draft.takeAll_parts job _ ls [] rfl, Draft.takeAll_parts job _ ls' [] rfl] at hparts
  exact congrArg Buffer.flatten hparts

/-! ## Trees with a hole -/

/-- A tree with a hole. -/
inductive Context where
  | here
  | program (before : List Node) (c : Context) (after : List Node)
  | markup (before : List Child) (c : Context) (after : List Child)
  | control (tagName : Text) (before : List Child) (c : Context) (after : List Child)
  | expression (tagName : Text) (before : List Child) (c : Context) (after : List Child)

namespace Context

/-- The tree with a node in the hole. -/
def plug (n : Node) : Context → Node
  | .here => n
  | .program before c after => .program (before ++ c.plug n :: after)
  | .markup before c after => .markup (before ++ .node (c.plug n) :: after)
  | .control tagName before c after => .control tagName (before ++ .node (c.plug n) :: after)
  | .expression tagName before c after => .expression tagName (before ++ .node (c.plug n) :: after)

/-- The mode of the node around the hole, if `outer` is the mode around the whole. -/
def around (outer : Mode) : Context → Mode
  | .here => outer
  | .program _ c _ => c.around .program
  | .markup _ c _ => c.around .markup
  | .control _ _ c _ => c.around .control
  | .expression _ _ c _ => c.around .expression

/-- The hole is in the control node that is read as declarations. -/
def inDiverted : Context → Bool
  | .program before c _ => (unfoldNodes before).isEmpty && c.inDiverted
  | .control _ _ _ _ => true
  | _ => false

end Context

/-! ## Leaves around a hole -/

section

variable {job : Job} {params : List Param} {n n' : Node}

theorem anyNonExpression_insert (h : n.hasNonExpression = n'.hasNonExpression)
    (before after : List Child) :
    anyNonExpression (before ++ .node n :: after)
      = anyNonExpression (before ++ .node n' :: after) := by
  induction before with
  | nil => rw [List.nil_append, List.nil_append, anyNonExpression, anyNonExpression, h]
  | cons c before ih =>
    cases c with
    | node m => rw [List.cons_append, List.cons_append, anyNonExpression, anyNonExpression, ih]
    | token t => exact ih

theorem Context.hasNonExpression_plug (h : n.hasNonExpression = n'.hasNonExpression)
    (c : Context) : (c.plug n).hasNonExpression = (c.plug n').hasNonExpression := by
  induction c with
  | here => exact h
  | program before c after _ => rfl
  | markup before c after _ => rfl
  | control tagName before c after _ => rfl
  | expression tagName before c after ih => exact anyNonExpression_insert ih before after

theorem nodesLeaves_insert
    (h : SameEffect job (n.leaves job params (some .program))
      (n'.leaves job params (some .program)))
    (before after : List Node) :
    SameEffect job (nodesLeaves job params (before ++ n :: after))
      (nodesLeaves job params (before ++ n' :: after)) := by
  induction before with
  | nil => exact h.append (.refl job _)
  | cons m before ih => exact (SameEffect.refl job _).append ih

theorem markupLeaves_insert
    (h : SameEffect job (n.leaves job params (some .markup)) (n'.leaves job params (some .markup)))
    (before after : List Child) :
    SameEffect job (markupLeaves job params (before ++ .node n :: after))
      (markupLeaves job params (before ++ .node n' :: after)) := by
  induction before with
  | nil => exact h.append (.refl job _)
  | cons c before ih =>
    cases c with
    | node m => exact (SameEffect.refl job _).append ih
    | token t => exact ih.cons _

theorem controlLeaves_insert
    (h : SameEffect job (n.leaves job params (some .control))
      (n'.leaves job params (some .control)))
    (braced : Bool) (before after : List Child) (atStart : Bool) :
    SameEffect job (controlLeaves job params braced atStart (before ++ .node n :: after))
      (controlLeaves job params braced atStart (before ++ .node n' :: after)) := by
  induction before generalizing atStart with
  | nil =>
    rw [List.nil_append, List.nil_append, controlLeaves, controlLeaves]
    split
    · exact .refl job _
    · exact h.append (.refl job _)
  | cons c before ih =>
    -- whichever node is in the hole, a child in front of it is not the last
    have hempty : ∀ m : Node, (before ++ Child.node m :: after).isEmpty = false := by
      intro m
      cases before <;> rfl
    cases c with
    | node m =>
      rw [List.cons_append, List.cons_append, controlLeaves, controlLeaves, hempty, hempty]
      split
      · exact ih false
      · exact (SameEffect.refl job _).append (ih false)
    | token t =>
      rw [List.cons_append, List.cons_append, controlLeaves, controlLeaves, hempty, hempty]
      split
      · exact ih false
      · exact (ih false).cons _

theorem expressionLeaves_insert
    (h : SameEffect job (n.leaves job params (some .expression))
      (n'.leaves job params (some .expression)))
    (before after : List Child) (slot : Slot) :
    SameEffect job (expressionLeaves job params slot (before ++ .node n :: after))
      (expressionLeaves job params slot (before ++ .node n' :: after)) := by
  induction before generalizing slot with
  | nil => exact h.append (.refl job _)
  | cons c before ih =>
    cases c with
    | node m => exact (SameEffect.refl job _).append (ih slot.succ)
    | token t => exact (ih slot.succ).cons _

/-- **Nodes with leaves of the same effect can be exchanged** in any context, as far as leaves
    go. -/
theorem Context.leaves_plug (hn : n.hasNonExpression = n'.hasNonExpression) (c : Context)
    (outer : Mode) (h : SameEffect job (n.leaves job params (some (c.around outer)))
      (n'.leaves job params (some (c.around outer)))) :
    SameEffect job ((c.plug n).leaves job params (some outer))
      ((c.plug n').leaves job params (some outer)) := by
  induction c generalizing outer with
  | here => exact h
  | program before c after ih => exact nodesLeaves_insert (ih .program h) before after
  | markup before c after ih => exact markupLeaves_insert (ih .markup h) before after
  | control tagName before c after ih =>
    -- only tokens count as braces
    have hpair : hasBracePair (before ++ .node (c.plug n) :: after)
        = hasBracePair (before ++ .node (c.plug n') :: after) :=
      hasBracePair_eq_of_tokens (by simp [Child.token?])
    show SameEffect job (controlLeaves job params _ true _) (controlLeaves job params _ true _)
    rw [hpair]
    exact controlLeaves_insert (ih .control h) _ before after true
  | expression tagName before c after ih =>
    have hslot : Slot.first (some outer) (before ++ .node (c.plug n) :: after)
        = Slot.first (some outer) (before ++ .node (c.plug n') :: after) := by
      rw [Slot.first, Slot.first, anyNonExpression_insert (c.hasNonExpression_plug hn)]
      simp only [List.length_append, List.length_cons]
    show SameEffect job (expressionLeaves job params (Slot.first (some outer) _) _)
      (expressionLeaves job params (Slot.first (some outer) _) _)
    rw [hslot]
    exact expressionLeaves_insert (ih .expression h) before after _

theorem mem_nodesLeaves_insert {l : Leaf} (hl : l ∈ n.leaves job params (some .program))
    (before after : List Node) : l ∈ nodesLeaves job params (before ++ n :: after) := by
  induction before with
  | nil => exact List.mem_append_left _ hl
  | cons m before ih => exact List.mem_append_right _ ih

theorem mem_markupLeaves_insert {l : Leaf} (hl : l ∈ n.leaves job params (some .markup))
    (before after : List Child) : l ∈ markupLeaves job params (before ++ .node n :: after) := by
  induction before with
  | nil => exact List.mem_append_left _ hl
  | cons c before ih =>
    cases c with
    | node m => exact List.mem_append_right _ ih
    | token t => exact List.mem_cons_of_mem _ ih

theorem mem_expressionLeaves_insert {l : Leaf} (hl : l ∈ n.leaves job params (some .expression))
    (before after : List Child) (slot : Slot) :
    l ∈ expressionLeaves job params slot (before ++ .node n :: after) := by
  induction before generalizing slot with
  | nil => exact List.mem_append_left _ hl
  | cons c before ih =>
    cases c with
    | node m => exact List.mem_append_right _ (ih slot.succ)
    | token t => exact List.mem_cons_of_mem _ (ih slot.succ)

/-- A node in a pair of braces is neither the first child nor the last. -/
theorem hasBracePair_insert {before after : List Child}
    (h : hasBracePair (before ++ .node n :: after) = true) : before ≠ [] ∧ after ≠ [] := by
  constructor
  · rintro rfl
    cases h
  · rintro rfl
    cases before with
    | nil => cases h
    | cons c before =>
      cases c with
      | node m => cases h
      | token t =>
        rw [List.cons_append, hasBracePair, List.getLast?_concat] at h
        cases h

theorem mem_controlLeaves_insert {l : Leaf} (hl : l ∈ n.leaves job params (some .control))
    {braced : Bool} {after : List Child} (hafter : braced = true → after ≠ [])
    (before : List Child) {atStart : Bool} (hstart : braced = true → atStart = true → before ≠ []) :
    l ∈ controlLeaves job params braced atStart (before ++ .node n :: after) := by
  -- behind the first child `hstart` asks for nothing, so it is not in the way of the induction
  induction before generalizing atStart with
  | nil =>
    have hkept : (braced && (atStart || after.isEmpty)) = false := by
      cases hb : braced with
      | false => rfl
      | true =>
        have hs : atStart = false := by
          cases atStart with
          | false => rfl
          | true => exact absurd rfl (hstart hb rfl)
        simp [hs, hafter hb]
    rw [List.nil_append, controlLeaves, hkept]
    exact List.mem_append_left _ hl
  | cons c before ih =>
    have hrest : l ∈ controlLeaves job params braced false (before ++ .node n :: after) := ih nofun
    cases c with
    | node m =>
      rw [List.cons_append, controlLeaves]
      split
      · exact hrest
      · exact List.mem_append_right _ hrest
    | token t =>
      rw [List.cons_append, controlLeaves]
      split
      · exact hrest
      · exact List.mem_cons_of_mem _ hrest

/-- No leaf of the node in the hole is lost. -/
theorem Context.mem_leaves_plug {l : Leaf} (c : Context) (outer : Mode)
    (hl : l ∈ n.leaves job params (some (c.around outer))) :
    l ∈ (c.plug n).leaves job params (some outer) := by
  induction c generalizing outer with
  | here => exact hl
  | program before c after ih => exact mem_nodesLeaves_insert (ih .program hl) before after
  | markup before c after ih => exact mem_markupLeaves_insert (ih .markup hl) before after
  | control tagName before c after ih =>
    refine mem_controlLeaves_insert (ih .control hl) (fun h => ?_) before fun h _ => ?_
    · exact (hasBracePair_insert h).2
    · exact (hasBracePair_insert h).1
  | expression tagName before c after ih =>
    exact mem_expressionLeaves_insert (ih .expression hl) before after _

end

/-! ## The hole in the diverted node or in the body -/

/-- A node of markup or an expression: no program is opened up there, and nothing is diverted. -/
def Node.isContent (n : Node) : Bool := n.mode == .markup || n.mode == .expression

theorem Node.mode_of_isContent {n : Node} (h : n.isContent = true) : n.mode ≠ .control := by
  intro hn
  rw [Node.isContent, hn] at h
  cases h

theorem Node.unfold_of_isContent {n : Node} (h : n.isContent = true) : n.unfold = [n] := by
  cases n with
  | markup | expression => rfl
  | program | control => cases h

theorem unfoldNodes_append (ns ms : List Node) :
    unfoldNodes (ns ++ ms) = unfoldNodes ns ++ unfoldNodes ms := by
  induction ns with
  | nil => rfl
  | cons n ns ih => rw [List.cons_append, unfoldNodes, unfoldNodes, ih, List.append_assoc]

/-- With the programs opened up, the hole is in one of the nodes. -/
theorem Context.unfold_plug (c : Context) : ∃ (before : List Node) (c' : Context)
    (after : List Node), c'.around .program = c.around .program ∧
      c.inDiverted = (before.isEmpty && c'.inDiverted) ∧
      (∀ bs d as, c' ≠ .program bs d as) ∧
      ∀ n : Node, n.isContent = true → (c.plug n).unfold = before ++ c'.plug n :: after := by
  induction c with
  | here => exact ⟨[], .here, [], rfl, rfl, nofun, fun n hn => n.unfold_of_isContent hn⟩
  | program bs c as ih =>
    obtain ⟨before, c', after, haround, hdiv, hc', hunfold⟩ := ih
    refine ⟨unfoldNodes bs ++ before, c', after ++ unfoldNodes as, haround, ?_, hc', ?_⟩
    · rw [Context.inDiverted, hdiv, ← Bool.and_assoc]
      cases unfoldNodes bs <;> rfl
    · intro n hn
      show unfoldNodes (bs ++ c.plug n :: as) = _
      rw [unfoldNodes_append, unfoldNodes, hunfold n hn]
      simp only [List.append_assoc, List.cons_append]
  | markup bs c as _ => exact ⟨[], .markup bs c as, [], rfl, rfl, nofun, fun _ _ => rfl⟩
  | control tagName bs c as _ =>
    exact ⟨[], .control tagName bs c as, [], rfl, rfl, nofun, fun _ _ => rfl⟩
  | expression tagName bs c as _ =>
    exact ⟨[], .expression tagName bs c as, [], rfl, rfl, nofun, fun _ _ => rfl⟩

/-- The hole is in the diverted node, or in a node of the body. -/
theorem Context.diverted_or_body (c : Context) :
    (c.inDiverted = true ∧ ∃ (c' : Context) (body : List Node),
      c'.around .program = c.around .program ∧ ∀ n : Node, n.isContent = true →
        (c.plug n).diverted? = some (c'.plug n) ∧ (c.plug n).body = body) ∨
    (c.inDiverted = false ∧ ∃ (m? : Option Node) (before : List Node) (c' : Context)
      (after : List Node), c'.around .program = c.around .program ∧
      ∀ n : Node, n.isContent = true →
        (c.plug n).diverted? = m? ∧ (c.plug n).body = before ++ c'.plug n :: after) := by
  obtain ⟨before, c', after, haround, hdiv, hc', hunfold⟩ := c.unfold_plug
  cases before with
  | cons m before =>
    -- some node comes before the hole, so that one decides
    refine .inr ⟨hdiv, ?_⟩
    by_cases hm : m.mode = .control
    · exact ⟨some m, before, c', after, haround, fun n hn =>
        Node.split_of_control (hunfold n hn) hm⟩
    · exact ⟨none, m :: before, c', after, haround, fun n hn =>
        Node.split_of_not_control (hunfold n hn) hm⟩
  | nil =>
    -- the node with the hole in it decides
    cases c' with
    | program bs c as => exact absurd rfl (hc' bs c as)
    | control tagName bs c as =>
      exact .inl ⟨hdiv, .control tagName bs c as, after, haround, fun n hn =>
        Node.split_of_control (hunfold n hn) rfl⟩
    | here =>
      refine .inr ⟨hdiv, none, [], .here, after, haround, fun n hn => ?_⟩
      exact Node.split_of_not_control (hunfold n hn) (n.mode_of_isContent hn)
    | markup bs c as =>
      exact .inr ⟨hdiv, none, [], .markup bs c as, after, haround, fun n hn =>
        Node.split_of_not_control (hunfold n hn) Mode.noConfusion⟩
    | expression tagName bs c as =>
      exact .inr ⟨hdiv, none, [], .expression tagName bs c as, after, haround, fun n hn =>
        Node.split_of_not_control (hunfold n hn) Mode.noConfusion⟩

/-! ## Compilation -/

/-- The parameters in force at the hole when a tree is walked: none in the diverted node, the
    declared ones in the body. -/
def Job.paramsAt (job : Job) (c : Context) (root : Node) : List Param :=
  if c.inDiverted then [] else
    match job.opened root with
    | .ok d => d.params
    | .error _ => []

/-- **Content with leaves of the same effect can be exchanged** anywhere in a template. -/
theorem Context.compile_plug (job : Job) {n n' : Node} (hn : n.isContent = true)
    (hn' : n'.isContent = true) (hne : n.hasNonExpression = n'.hasNonExpression) (c : Context)
    (h : SameEffect job (n.leaves job (job.paramsAt c (c.plug n)) (some (c.around .program)))
      (n'.leaves job (job.paramsAt c (c.plug n)) (some (c.around .program)))) :
    job.compile (c.plug n) = job.compile (c.plug n') := by
  rw [job.compile_eq, job.compile_eq]
  rcases c.diverted_or_body with ⟨hdiv, c', body, haround, hplug⟩ |
    ⟨hdiv, m?, before, c', after, haround, hplug⟩
  · -- in the diverted node: the same declarations are read
    rw [Job.paramsAt, hdiv, if_pos rfl, ← haround] at h
    have hsame := c'.leaves_plug hne .program h
    have hopened : job.opened (c.plug n) = job.opened (c.plug n') := by
      simp only [Job.opened, (hplug n hn).1, (hplug n' hn').1, Job.readDeclarations]
      rw [hsame (Draft.fresh job), hsame.leavesText_eq]
    have hbody : ∀ d, job.bodyLeaves (c.plug n) d = job.bodyLeaves (c.plug n') d := by
      intro d
      rw [Job.bodyLeaves, Job.bodyLeaves, (hplug n hn).2, (hplug n' hn').2]
    simp only [hopened, hbody]
  · -- in the body: the same draft before it, and leaves of the same effect
    have hopened : job.opened (c.plug n) = job.opened (c.plug n') := by
      rw [Job.opened, Job.opened, (hplug n hn).1, (hplug n' hn').1]
    rw [Job.paramsAt, hdiv, if_neg Bool.false_ne_true, ← haround] at h
    rw [← hopened]
    cases ho : job.opened (c.plug n) with
    | error e => rfl
    | ok d =>
      rw [ho] at h
      have hsame : SameEffect job (job.bodyLeaves (c.plug n) d) (job.bodyLeaves (c.plug n') d) := by
        rw [Job.bodyLeaves, Job.bodyLeaves, (hplug n hn).2, (hplug n' hn').2]
        exact nodesLeaves_insert (c'.leaves_plug hne .program h) before after
      simp only [hsame d, hsame.leavesText_eq]

/-- No leaf of the content in the hole is lost in a walk. -/
theorem Context.mem_walkedLeaves {job : Job} {n : Node} (hn : n.isContent = true) (c : Context)
    {d : Draft} (ho : job.opened (c.plug n) = .ok d) {l : Leaf}
    (hl : l ∈ n.leaves job (job.paramsAt c (c.plug n)) (some (c.around .program))) :
    l ∈ job.walkedLeaves (c.plug n) := by
  rw [Job.walkedLeaves_of_opened ho]
  rcases c.diverted_or_body with ⟨hdiv, c', body, haround, hplug⟩ |
    ⟨hdiv, m?, before, c', after, haround, hplug⟩
  · rw [Job.paramsAt, hdiv, if_pos rfl, ← haround] at hl
    refine List.mem_append_left _ ?_
    rw [Job.divertedLeaves, (hplug n hn).1]
    exact c'.mem_leaves_plug .program hl
  · rw [Job.paramsAt, hdiv, if_neg Bool.false_ne_true, ho, ← haround] at hl
    refine List.mem_append_right _ ?_
    rw [Job.bodyLeaves, (hplug n hn).2]
    exact mem_nodesLeaves_insert (c'.mem_leaves_plug .program hl) before after

end GoTemplate
