/-
  Where in a tree the escape call is opened.

  A walk opens a call at a LEAF.  Seen from the tree, that is the first token of an expression with
  nothing but expressions in it, which does not stand directly inside another expression and whose
  token needs escaping (`EscapedAt`).  `Node.escapedAt_of_mem` finds the place for a leaf, by
  recursion on the tree; the way back is that no leaf of a subtree is lost
  (`Context.mem_leaves_plug`).

  Which parameters are in force at a place depends on whether it lies in the diverted node.  A
  place in a node of the unfolded tree is a place in the tree, and lies in the diverted node exactly
  if that node comes first and is a control node (`Node.exists_context_of_unfold`).
-/
import GoTemplate.Proofs.Contexts

namespace GoTemplate

/-! ## Homogeneous expressions -/

/-- Every node of the tree is an expression. -/
def Node.Homogeneous (n : Node) : Prop :=
  ∀ (c : Context) (m : Node), n = c.plug m → m.mode = .expression

mutual

theorem Node.exists_of_hasNonExpression : ∀ n : Node, n.hasNonExpression = true →
    ∃ (c : Context) (m : Node), n = c.plug m ∧ m.mode ≠ .expression
  | .program ns, _ => ⟨.here, .program ns, rfl, nofun⟩
  | .markup cs, _ => ⟨.here, .markup cs, rfl, nofun⟩
  | .control tagName cs, _ => ⟨.here, .control tagName cs, rfl, nofun⟩
  | .expression tagName cs, h => by
    obtain ⟨before, c, m, after, rfl, hm⟩ := exists_of_anyNonExpression cs h
    exact ⟨.expression tagName before c after, m, rfl, hm⟩
termination_by structural n => n

theorem exists_of_anyNonExpression : ∀ cs : List Child, anyNonExpression cs = true →
    ∃ (before : List Child) (c : Context) (m : Node) (after : List Child),
      cs = before ++ .node (c.plug m) :: after ∧ m.mode ≠ .expression
  | [], h => nomatch h
  | .token t :: rest, h => by
    obtain ⟨before, c, m, after, rfl, hm⟩ := exists_of_anyNonExpression rest h
    exact ⟨.token t :: before, c, m, after, rfl, hm⟩
  | .node n :: rest, h => by
    rcases Bool.or_eq_true_iff.1 h with hn | hrest
    · obtain ⟨c, m, rfl, hm⟩ := Node.exists_of_hasNonExpression n hn
      exact ⟨[], c, m, rest, rfl, hm⟩
    · obtain ⟨before, c, m, after, rfl, hm⟩ := exists_of_anyNonExpression rest hrest
      exact ⟨.node n :: before, c, m, after, rfl, hm⟩
termination_by structural cs => cs

end

theorem hasNonExpression_of_anyNonExpression {before after : List Child} {n : Node}
    (h : anyNonExpression (before ++ .node n :: after) = false) : n.hasNonExpression = false := by
  induction before with
  | nil => exact (Bool.or_eq_false_iff.1 h).1
  | cons c before ih =>
    cases c with
    | token t => exact ih h
    | node m => exact ih (Bool.or_eq_false_iff.1 h).2

/-- **The test for homogeneity is exact.** -/
theorem Node.homogeneous_iff (n : Node) : n.Homogeneous ↔ n.hasNonExpression = false := by
  constructor
  · intro h
    rw [← Bool.not_eq_true]
    intro hn
    obtain ⟨c, m, hplug, hm⟩ := Node.exists_of_hasNonExpression n hn
    exact hm (h c m hplug)
  · rintro h c m rfl
    induction c with
    | here =>
      cases m with
      | expression tagName cs => rfl
      | program | markup | control => cases h
    | expression tagName before c after ih => exact ih (hasNonExpression_of_anyNonExpression h)
    | program | markup | control => cases h

/-! ## Places -/

/-- In a tree, with a node of mode `outer` around it, the hole of a context holds an expression that
    is wrapped in the escape call while `params` are in force: a homogeneous one, not directly
    inside another, that begins with a token which needs escaping. -/
def EscapedAt (dir : Text) (params : List Param) (outer : Mode) (n : Node) (c : Context) : Prop :=
  ∃ tagName t rest, n = c.plug (.expression tagName (.token t :: rest))
    ∧ c.around outer ≠ .expression
    ∧ (Node.expression tagName (.token t :: rest)).Homogeneous
    ∧ needsEscape t.value dir params = true

section

variable {job : Job} {params : List Param}

/-- A slot that opens a call is the first one of an expression of this kind. -/
theorem Slot.escapes_first_iff (outer : Mode) (tagName : Text) (t : Token) (rest : List Child) :
    (Slot.first (some outer) (.token t :: rest)).escapes job params t.value = true
      ↔ job.options.escape = true ∧ outer ≠ .expression
        ∧ (Node.expression tagName (.token t :: rest)).Homogeneous
        ∧ needsEscape t.value job.dir params = true := by
  rw [Node.homogeneous_iff]
  show (job.options.escape && !(some outer == some Mode.expression)
      && !anyNonExpression (.token t :: rest) && true && needsEscape t.value job.dir params) = true
    ↔ _ ∧ _ ∧ anyNonExpression (.token t :: rest) = false ∧ _
  simp [and_assoc]

theorem Slot.not_escapes_succ (slot : Slot) (value : Text) :
    slot.succ.escapes job params value = false := by
  show (_ && (slot.index + 1 == 0) && _) = false
  simp

mutual

/-- **A leaf that opens a call has a place in the tree.** -/
theorem Node.escapedAt_of_mem : ∀ (n : Node) (outer : Mode), ∀ l ∈ n.leaves job params (some outer),
    l.escapes = true → ∃ c, EscapedAt job.dir params outer n c
  | .program ns, outer, l, hl, he => by
    obtain ⟨before, m, after, rfl, c, tagName, t, rest, rfl, hc⟩ :=
      nodes_escapedAt_of_mem ns l hl he
    exact ⟨.program before c after, tagName, t, rest, rfl, hc⟩
  | .markup cs, outer, l, hl, he => by
    obtain ⟨before, m, after, rfl, c, tagName, t, rest, rfl, hc⟩ :=
      markup_escapedAt_of_mem cs l hl he
    exact ⟨.markup before c after, tagName, t, rest, rfl, hc⟩
  | .control name cs, outer, l, hl, he => by
    obtain ⟨before, m, after, rfl, c, tagName, t, rest, rfl, hc⟩ :=
      control_escapedAt_of_mem cs _ true l hl he
    exact ⟨.control name before c after, tagName, t, rest, rfl, hc⟩
  | .expression name cs, outer, l, hl, he => by
    rcases expression_escapedAt_of_mem cs _ l hl he with ⟨t, rest, rfl, hslot⟩ |
      ⟨before, m, after, rfl, c, tagName, t, rest, rfl, hc⟩
    · exact ⟨.here, name, t, rest, rfl, ((Slot.escapes_first_iff outer name t rest).1 hslot).2⟩
    · exact ⟨.expression name before c after, tagName, t, rest, rfl, hc⟩
termination_by structural n => n

theorem nodes_escapedAt_of_mem : ∀ (ns : List Node), ∀ l ∈ nodesLeaves job params ns,
    l.escapes = true → ∃ before m after, ns = before ++ m :: after
      ∧ ∃ c, EscapedAt job.dir params .program m c
  | [], l, hl, _ => absurd hl List.not_mem_nil
  | n :: rest, l, hl, he => by
    rcases List.mem_append.1 hl with hl | hl
    · exact ⟨[], n, rest, rfl, Node.escapedAt_of_mem n .program l hl he⟩
    · obtain ⟨before, m, after, rfl, hc⟩ := nodes_escapedAt_of_mem rest l hl he
      exact ⟨n :: before, m, after, rfl, hc⟩
termination_by structural ns => ns

theorem markup_escapedAt_of_mem : ∀ (cs : List Child), ∀ l ∈ markupLeaves job params cs,
    l.escapes = true → ∃ before m after, cs = before ++ .node m :: after
      ∧ ∃ c, EscapedAt job.dir params .markup m c
  | [], l, hl, _ => absurd hl List.not_mem_nil
  | .token t :: rest, l, hl, he => by
    rcases List.mem_cons.1 hl with rfl | hl
    · cases he
    · obtain ⟨before, m, after, rfl, hc⟩ := markup_escapedAt_of_mem rest l hl he
      exact ⟨.token t :: before, m, after, rfl, hc⟩
  | .node n :: rest, l, hl, he => by
    rcases List.mem_append.1 hl with hl | hl
    · exact ⟨[], n, rest, rfl, Node.escapedAt_of_mem n .markup l hl he⟩
    · obtain ⟨before, m, after, rfl, hc⟩ := markup_escapedAt_of_mem rest l hl he
      exact ⟨.node n :: before, m, after, rfl, hc⟩
termination_by structural cs => cs

theorem control_escapedAt_of_mem : ∀ (cs : List Child) (braced atStart : Bool),
    ∀ l ∈ controlLeaves job params braced atStart cs,
    l.escapes = true → ∃ before m after, cs = before ++ .node m :: after
      ∧ ∃ c, EscapedAt job.dir params .control m c
  | [], _, _, l, hl, _ => absurd hl List.not_mem_nil
  | .token t :: rest, braced, atStart, l, hl, he => by
    have hrest : l ∈ controlLeaves job params braced false rest := by
      rw [controlLeaves] at hl
      split at hl
      · exact hl
      · rcases List.mem_cons.1 hl with rfl | hl
        · cases he
        · exact hl
    obtain ⟨before, m, after, rfl, hc⟩ := control_escapedAt_of_mem rest braced false l hrest he
    exact ⟨.token t :: before, m, after, rfl, hc⟩
  | .node n :: rest, braced, atStart, l, hl, he => by
    have hsplit : l ∈ n.leaves job params (some .control)
        ∨ l ∈ controlLeaves job params braced false rest := by
      rw [controlLeaves] at hl
      split at hl
      · exact .inr hl
      · exact List.mem_append.1 hl
    rcases hsplit with hl | hl
    · exact ⟨[], n, rest, rfl, Node.escapedAt_of_mem n .control l hl he⟩
    · obtain ⟨before, m, after, rfl, hc⟩ := control_escapedAt_of_mem rest braced false l hl he
      exact ⟨.node n :: before, m, after, rfl, hc⟩
termination_by structural cs => cs

/-- In an expression the leaf is its first token's, or lies in a node. -/
theorem expression_escapedAt_of_mem : ∀ (cs : List Child) (slot : Slot),
    ∀ l ∈ expressionLeaves job params slot cs, l.escapes = true →
    (∃ t rest, cs = .token t :: rest ∧ slot.escapes job params t.value = true)
      ∨ ∃ before m after, cs = before ++ .node m :: after
        ∧ ∃ c, EscapedAt job.dir params .expression m c
  | [], _, l, hl, _ => absurd hl List.not_mem_nil
  | .token t :: rest, slot, l, hl, he => by
    rcases List.mem_cons.1 hl with rfl | hl
    · exact .inl ⟨t, rest, rfl, he⟩
    · rcases expression_escapedAt_of_mem rest slot.succ l hl he with ⟨t', rest', rfl, hslot⟩ |
        ⟨before, m, after, rfl, hc⟩
      · rw [slot.not_escapes_succ] at hslot
        cases hslot
      · exact .inr ⟨.token t :: before, m, after, rfl, hc⟩
  | .node n :: rest, slot, l, hl, he => by
    rcases List.mem_append.1 hl with hl | hl
    · exact .inr ⟨[], n, rest, rfl, Node.escapedAt_of_mem n .expression l hl he⟩
    · rcases expression_escapedAt_of_mem rest slot.succ l hl he with ⟨t', rest', rfl, hslot⟩ |
        ⟨before, m, after, rfl, hc⟩
      · rw [slot.not_escapes_succ] at hslot
        cases hslot
      · exact .inr ⟨.node n :: before, m, after, rfl, hc⟩
termination_by structural cs => cs

end

end

/-! ## Places in the unfolded tree -/

/-- The one place in what a node that is no program unfolds to. -/
theorem eq_of_singleton_eq {n m : Node} {before after : List Node}
    (h : [n] = before ++ m :: after) : before = [] ∧ n = m := by
  cases before with
  | nil => exact ⟨rfl, (List.cons.inj h).1⟩
  | cons b before => exact absurd (List.cons.inj h).2.symm (by simp)

mutual

/-- **A place in a node of the unfolded tree is a place in the tree**, and lies in the diverted node
    exactly if that node comes first and is a control node. -/
theorem Node.exists_context_of_unfold (x : Node) (c : Context) : ∀ (root : Node)
    (before after : List Node), root.unfold = before ++ c.plug x :: after →
    ∃ c' : Context, root = c'.plug x ∧ c'.around .program = c.around .program
      ∧ c'.inDiverted = (before.isEmpty && c.inDiverted)
  | .program ns, before, after, h => by
    obtain ⟨bs, c', as, rfl, haround, hdiv⟩ := exists_context_of_unfoldNodes x c ns before after h
    exact ⟨.program bs c' as, rfl, haround, hdiv⟩
  | .markup cs, before, after, h => by
    obtain ⟨rfl, hx⟩ := eq_of_singleton_eq h
    exact ⟨c, hx, rfl, rfl⟩
  | .control tagName cs, before, after, h => by
    obtain ⟨rfl, hx⟩ := eq_of_singleton_eq h
    exact ⟨c, hx, rfl, rfl⟩
  | .expression tagName cs, before, after, h => by
    obtain ⟨rfl, hx⟩ := eq_of_singleton_eq h
    exact ⟨c, hx, rfl, rfl⟩
termination_by structural n => n

theorem exists_context_of_unfoldNodes (x : Node) (c : Context) : ∀ (ns before after : List Node),
    unfoldNodes ns = before ++ c.plug x :: after →
    ∃ (bs : List Node) (c' : Context) (as : List Node), ns = bs ++ c'.plug x :: as
      ∧ c'.around .program = c.around .program
      ∧ ((unfoldNodes bs).isEmpty && c'.inDiverted) = (before.isEmpty && c.inDiverted)
  | [], before, after, h => absurd h.symm (by simp [unfoldNodes])
  | n :: rest, before, after, h => by
    -- the place is behind the first node, or in it
    have hsplit : (∃ b, before = n.unfold ++ b ∧ unfoldNodes rest = b ++ c.plug x :: after)
        ∨ ∃ a, n.unfold = before ++ c.plug x :: a := by
      rcases List.append_eq_append_iff.1 h with hbehind | ⟨a, hn, ha⟩
      · exact .inl hbehind
      · rcases List.cons_eq_append_iff.1 ha with ⟨rfl, hrest⟩ | ⟨a', rfl, -⟩
        · exact .inl ⟨[], by rw [hn, List.append_nil, List.append_nil], hrest⟩
        · exact .inr ⟨a', hn⟩
    rcases hsplit with ⟨b, rfl, hrest⟩ | ⟨a, hn⟩
    · obtain ⟨bs, c', as, rfl, haround, hdiv⟩ :=
        exists_context_of_unfoldNodes x c rest b after hrest
      refine ⟨n :: bs, c', as, rfl, haround, ?_⟩
      have happend : ∀ ms : List Node,
          (n.unfold ++ ms).isEmpty = (n.unfold.isEmpty && ms.isEmpty) := by
        intro ms
        cases n.unfold <;> rfl
      rw [unfoldNodes, happend, happend, Bool.and_assoc, Bool.and_assoc, hdiv]
    · obtain ⟨c', rfl, haround, hdiv⟩ := Node.exists_context_of_unfold x c n before a hn
      exact ⟨[], c', rest, rfl, haround, hdiv⟩
termination_by structural ns => ns

end

/-! ## Places in a template -/

/-- In a control node every expression is inside it. -/
theorem Context.inDiverted_of_control {c : Context} {x : Node}
    (hcontrol : (c.plug x).mode = .control) (hx : x.mode = .expression) : c.inDiverted = true := by
  cases c with
  | control => rfl
  | here => exact Mode.noConfusion (hx.symm.trans hcontrol)
  | program | markup | expression => cases hcontrol

/-- In any other node no place lies in a control node that comes first. -/
theorem Context.inDiverted_of_ne {c : Context} {x : Node} (hcontrol : (c.plug x).mode ≠ .control)
    (hprogram : (c.plug x).mode ≠ .program) : c.inDiverted = false := by
  cases c with
  | control => exact absurd rfl hcontrol
  | program => exact absurd rfl hprogram
  | here | markup | expression => rfl

/-- A place in a node of the body is one outside the diverted node. -/
theorem Node.exists_context_of_body {root x : Node} {c : Context} {before after : List Node}
    (h : root.body = before ++ c.plug x :: after) :
    ∃ c' : Context, root = c'.plug x ∧ c'.around .program = c.around .program
      ∧ c'.inDiverted = false := by
  cases hd : root.diverted? with
  | some n =>
    have hunfold : root.unfold = (n :: before) ++ c.plug x :: after := by
      rw [(Node.unfold_of_diverted hd).2, h, List.cons_append]
    exact Node.exists_context_of_unfold x c root (n :: before) after hunfold
  | none =>
    obtain ⟨hunfold, hfirst⟩ := Node.unfold_of_not_diverted hd
    rw [h] at hunfold
    obtain ⟨c', hroot, haround, hdiv⟩ := Node.exists_context_of_unfold x c root before after hunfold
    refine ⟨c', hroot, haround, hdiv.trans ?_⟩
    cases before with
    | cons b before => rfl
    | nil =>
      have hmem : c.plug x ∈ root.unfold := by
        rw [hunfold]
        exact List.mem_cons_self
      have hhead : c.plug x ∈ root.unfold.head? := by
        rw [hunfold]
        rfl
      exact Context.inDiverted_of_ne (hfirst _ hhead) (Node.mode_of_mem_unfold hmem)

/-- With escaping off nothing opens a call. -/
theorem Leaf.Added.escape {job : Job} {params : List Param} {l : Leaf} (h : l.Added job params)
    (he : l.escapes = true) : job.options.escape = true := by
  cases h with
  | markup t => cases he
  | control t => cases he
  | expression s t =>
    have hs : (job.options.escape && !s.nested && s.homogeneous && s.isFirst
        && needsEscape t.value job.dir params) = true := he
    simp only [Bool.and_eq_true] at hs
    exact hs.1.1.1.1

/-- **Where the escape call is opened in a template**: at a place whose expression needs it, with no
    parameters in force inside the diverted node and the declared ones elsewhere. -/
theorem Job.opens_iff {job : Job} {root : Node} {d : Draft} (h : job.opened root = .ok d) :
    (∃ l ∈ job.walkedLeaves root, l.escapes = true) ↔ job.options.escape = true
      ∧ ∃ c : Context,
        EscapedAt job.dir (if c.inDiverted then [] else d.params) .program root c := by
  constructor
  · rintro ⟨l, hl, he⟩
    rw [Job.walkedLeaves_of_opened h] at hl
    rcases List.mem_append.1 hl with hl | hl
    · rw [Job.divertedLeaves] at hl
      split at hl
      · exact absurd hl List.not_mem_nil
      · next n hd =>
        obtain ⟨hcontrol, hunfold⟩ := Node.unfold_of_diverted hd
        refine ⟨(Node.leaves_added job [] n _ l hl).escape he, ?_⟩
        obtain ⟨c, tagName, t, rest, rfl, htop, hhom, hneed⟩ :=
          Node.escapedAt_of_mem n .program l hl he
        obtain ⟨c', hroot, haround, hdiv⟩ :=
          Node.exists_context_of_unfold _ c root [] root.body hunfold
        have hin : c'.inDiverted = true := hdiv.trans (Context.inDiverted_of_control hcontrol rfl)
        refine ⟨c', tagName, t, rest, hroot, haround ▸ htop, hhom, ?_⟩
        rw [if_pos hin]
        exact hneed
    · refine ⟨(nodesLeaves_added job d.params root.body l hl).escape he, ?_⟩
      obtain ⟨before, m, after, hbody, c, tagName, t, rest, rfl, htop, hhom, hneed⟩ :=
        nodes_escapedAt_of_mem root.body l hl he
      obtain ⟨c', hroot, haround, hout⟩ := Node.exists_context_of_body hbody
      refine ⟨c', tagName, t, rest, hroot, haround ▸ htop, hhom, ?_⟩
      rw [if_neg (by rw [hout]; exact Bool.false_ne_true)]
      exact hneed
  · rintro ⟨hescape, c, tagName, t, rest, rfl, htop, hhom, hneed⟩
    have hparams : job.paramsAt c (c.plug (.expression tagName (.token t :: rest)))
        = if c.inDiverted then [] else d.params := by
      rw [Job.paramsAt, h]
    have hslot := (Slot.escapes_first_iff (c.around .program) tagName t rest).2
      ⟨hescape, htop, hhom, hneed⟩
    refine ⟨(Slot.first (some (c.around .program)) (.token t :: rest)).leaf job _ t,
      c.mem_walkedLeaves rfl h ?_, hslot⟩
    rw [hparams]
    exact List.mem_cons_self

end GoTemplate
