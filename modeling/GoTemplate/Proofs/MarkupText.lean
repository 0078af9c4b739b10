/-
  Markup text does not influence the structure of the generated file.

  Two trees are RETEXTED if they differ only in the texts of markup tokens, and every text that
  differs has ink on both sides.  Compiling them fails alike or yields files of the same outline:
  same function, parameters, layout, imports and sections, and as many lines in the body and in
  each section (`outline_of_retexted`).  So no markup text opens, closes or moves a region.

  The argument runs two compilations in step, one relation per stage:

  1. the leaves are pairwise ALIKE: equal, or two literals with ink;
  2. joining them into runs keeps that, since a run has ink if one of its pieces does;
  3. alike fragments render to texts that are equal except for the arguments of write statements;
  4. cut into lines, such texts are pairwise equal or end with write statements after equal text.
     THE CRUX: a literal may stand behind unframed expression text on one line, so a line is
     compared with the whole text before its write statement, whatever that text is;
  5. the region passes cannot tell such lines apart (`indistinct_writeStatement`).
-/
import GoTemplate.Proofs.Leaves

namespace GoTemplate

/-! ## Trees that differ in markup text -/

mutual

/-- Two trees that differ at most in the texts of markup tokens that are no markers; a text that
    differs has ink in both. -/
inductive Node.Retexted : Node → Node → Prop
  | program {ns ns' : List Node} : NodesRetexted ns ns' → Node.Retexted (.program ns) (.program ns')
  | markup {cs cs' : List Child} :
      ChildrenRetexted .markup cs cs' → Node.Retexted (.markup cs) (.markup cs')
  | control (tagName : Text) {cs cs' : List Child} :
      ChildrenRetexted .control cs cs' → Node.Retexted (.control tagName cs) (.control tagName cs')
  | expression (tagName : Text) {cs cs' : List Child} : ChildrenRetexted .expression cs cs' →
      Node.Retexted (.expression tagName cs) (.expression tagName cs')

/-- The same for the nodes of a program. -/
inductive NodesRetexted : List Node → List Node → Prop
  | nil : NodesRetexted [] []
  | cons {n n' : Node} {ns ns' : List Node} :
      Node.Retexted n n' → NodesRetexted ns ns' → NodesRetexted (n :: ns) (n' :: ns')

/-- The same for the children of a node of the given mode. -/
inductive ChildrenRetexted : Mode → List Child → List Child → Prop
  | nil (m : Mode) : ChildrenRetexted m [] []
  | node {m : Mode} {n n' : Node} {cs cs' : List Child} : Node.Retexted n n' →
      ChildrenRetexted m cs cs' → ChildrenRetexted m (.node n :: cs) (.node n' :: cs')
  | token {m : Mode} (t : Token) {cs cs' : List Child} :
      ChildrenRetexted m cs cs' → ChildrenRetexted m (.token t :: cs) (.token t :: cs')
  | text {kind : TokenKind} (hk : kind.isMarker = false) {s s' : Text} (hs : hasInk s = true)
      (hs' : hasInk s' = true) {cs cs' : List Child} : ChildrenRetexted .markup cs cs' →
      ChildrenRetexted .markup (.token ⟨kind, s⟩ :: cs) (.token ⟨kind, s'⟩ :: cs')

end

theorem ChildrenRetexted.length_eq {m : Mode} : ∀ {cs cs' : List Child},
    ChildrenRetexted m cs cs' → cs.length = cs'.length
  | _, _, .nil _ => rfl
  | _, _, .node _ h => congrArg (· + 1) h.length_eq
  | _, _, .token _ h => congrArg (· + 1) h.length_eq
  | _, _, .text _ _ _ h => congrArg (· + 1) h.length_eq

theorem ChildrenRetexted.isEmpty_eq {m : Mode} {cs cs' : List Child}
    (h : ChildrenRetexted m cs cs') : cs.isEmpty = cs'.isEmpty := by
  cases h <;> rfl

mutual

theorem Node.Retexted.hasNonExpression : ∀ {n n' : Node}, n.Retexted n' →
    n.hasNonExpression = n'.hasNonExpression
  | _, _, .program _ => rfl
  | _, _, .markup _ => rfl
  | _, _, .control _ _ => rfl
  | _, _, .expression _ h => h.anyNonExpression

theorem ChildrenRetexted.anyNonExpression : ∀ {m : Mode} {cs cs' : List Child},
    ChildrenRetexted m cs cs' → anyNonExpression cs = anyNonExpression cs'
  | _, _, _, .nil _ => rfl
  | _, _, _, .node hn h => by
    rw [GoTemplate.anyNonExpression, GoTemplate.anyNonExpression, hn.hasNonExpression,
      h.anyNonExpression]
  | _, _, _, .token _ h => h.anyNonExpression
  | _, _, _, .text _ _ _ h => h.anyNonExpression

end

/-- Outside markup nodes the tokens are the same at the same places. -/
theorem ChildrenRetexted.tokens_eq : ∀ {m : Mode} {cs cs' : List Child},
    ChildrenRetexted m cs cs' → m ≠ .markup → cs.map Child.token? = cs'.map Child.token?
  | _, _, _, .nil _, _ => rfl
  | _, _, _, .node _ h, hm => congrArg (none :: ·) (h.tokens_eq hm)
  | _, _, _, .token t h, hm => congrArg (some t :: ·) (h.tokens_eq hm)
  | _, _, _, .text _ _ _ _, hm => absurd rfl hm

/-! ## Alike leaves -/

/-- Two fragments that are equal, or both literals with ink. -/
inductive Fragment.Alike : Fragment → Fragment → Prop
  | same (f : Fragment) : Fragment.Alike f f
  | inked {v v' : Text} : hasInk v = true → hasInk v' = true →
      Fragment.Alike ⟨.literal, v⟩ ⟨.literal, v'⟩

/-- Two leaves with alike fragments, and the same as to escaping. -/
def Leaf.Alike (l l' : Leaf) : Prop :=
  l.toFragment.Alike l'.toFragment ∧ l.escapes = l'.escapes

mutual

/-- **Retexted trees have alike leaves.** -/
theorem Node.Retexted.leaves_alike (job : Job) (params : List Param) : ∀ {n n' : Node},
    n.Retexted n' → ∀ enclosing : Option Mode,
    List.Forall₂ Leaf.Alike (n.leaves job params enclosing) (n'.leaves job params enclosing)
  | _, _, .program h, _ => h.leaves_alike job params
  | _, _, .markup h, _ => h.markup_alike job params
  | _, _, .control _ h, _ => by
    have hpair := hasBracePair_eq_of_tokens (h.tokens_eq nofun)
    rw [Node.leaves, Node.leaves, hpair]
    exact h.control_alike job params nofun _ true
  | .expression _ cs, .expression _ cs', .expression _ h, enclosing => by
    have hslot : Slot.first enclosing cs = Slot.first enclosing cs' := by
      rw [Slot.first, Slot.first, h.length_eq, h.anyNonExpression]
    rw [Node.leaves, Node.leaves, hslot]
    exact h.expression_alike job params nofun _
termination_by structural _ _ h => h

theorem NodesRetexted.leaves_alike (job : Job) (params : List Param) : ∀ {ns ns' : List Node},
    NodesRetexted ns ns' →
    List.Forall₂ Leaf.Alike (nodesLeaves job params ns) (nodesLeaves job params ns')
  | _, _, .nil => .nil
  | _, _, .cons hn h =>
    List.rel_append (hn.leaves_alike job params (some .program)) (h.leaves_alike job params)
termination_by structural _ _ h => h

theorem ChildrenRetexted.markup_alike (job : Job) (params : List Param) :
    ∀ {m : Mode} {cs cs' : List Child}, ChildrenRetexted m cs cs' →
    List.Forall₂ Leaf.Alike (markupLeaves job params cs) (markupLeaves job params cs')
  | _, _, _, .nil _ => .nil
  | _, _, _, .node hn h =>
    List.rel_append (hn.leaves_alike job params (some .markup)) (h.markup_alike job params)
  | _, _, _, .token _ h => .cons ⟨.same _, rfl⟩ (h.markup_alike job params)
  | _, _, _, .text hk hs hs' h => by
    refine .cons ⟨?_, rfl⟩ (h.markup_alike job params)
    -- no marker: the value is the text
    simp only [Token.value, hk, Bool.false_eq_true, if_false]
    exact .inked hs hs'
termination_by structural _ _ _ h => h

theorem ChildrenRetexted.control_alike (job : Job) (params : List Param) :
    ∀ {m : Mode} {cs cs' : List Child}, ChildrenRetexted m cs cs' → m ≠ .markup →
    ∀ braced atStart : Bool, List.Forall₂ Leaf.Alike (controlLeaves job params braced atStart cs)
      (controlLeaves job params braced atStart cs')
  | _, _, _, .nil _, _, _, _ => .nil
  | _, _, _, .node hn h, hm, braced, atStart => by
    rw [controlLeaves, controlLeaves, h.isEmpty_eq]
    split
    · exact h.control_alike job params hm braced false
    · exact List.rel_append (hn.leaves_alike job params (some .control))
        (h.control_alike job params hm braced false)
  | _, _, _, .token _ h, hm, braced, atStart => by
    rw [controlLeaves, controlLeaves, h.isEmpty_eq]
    split
    · exact h.control_alike job params hm braced false
    · exact .cons ⟨.same _, rfl⟩ (h.control_alike job params hm braced false)
  | _, _, _, .text _ _ _ _, hm, _, _ => absurd rfl hm
termination_by structural _ _ _ h => h

theorem ChildrenRetexted.expression_alike (job : Job) (params : List Param) :
    ∀ {m : Mode} {cs cs' : List Child}, ChildrenRetexted m cs cs' → m ≠ .markup → ∀ slot : Slot,
    List.Forall₂ Leaf.Alike (expressionLeaves job params slot cs)
      (expressionLeaves job params slot cs')
  | _, _, _, .nil _, _, _ => .nil
  | _, _, _, .node hn h, hm, slot =>
    List.rel_append (hn.leaves_alike job params (some .expression))
      (h.expression_alike job params hm slot.succ)
  | _, _, _, .token _ h, hm, slot =>
    .cons ⟨.same _, rfl⟩ (h.expression_alike job params hm slot.succ)
  | _, _, _, .text _ _ _ _, hm, _ => absurd rfl hm
termination_by structural _ _ _ h => h

end

/-! ## Alike bodies -/

theorem NodesRetexted.append : ∀ {ns ns' ms ms' : List Node}, NodesRetexted ns ns' →
    NodesRetexted ms ms' → NodesRetexted (ns ++ ms) (ns' ++ ms')
  | _, _, _, _, .nil, hm => hm
  | _, _, _, _, .cons hn h, hm => .cons hn (h.append hm)

mutual

theorem Node.Retexted.unfold : ∀ {n n' : Node}, n.Retexted n' → NodesRetexted n.unfold n'.unfold
  | _, _, .program h => h.unfold
  | _, _, .markup h => .cons (.markup h) .nil
  | _, _, .control tagName h => .cons (.control tagName h) .nil
  | _, _, .expression tagName h => .cons (.expression tagName h) .nil

theorem NodesRetexted.unfold : ∀ {ns ns' : List Node}, NodesRetexted ns ns' →
    NodesRetexted (unfoldNodes ns) (unfoldNodes ns')
  | _, _, .nil => .nil
  | _, _, .cons hn h => hn.unfold.append h.unfold

end

theorem Node.Retexted.body {root root' : Node} (h : root.Retexted root') :
    NodesRetexted root.body root'.body := by
  have hu := h.unfold
  rw [Node.body, Node.body]
  generalize root.unfold = ns at hu ⊢
  generalize root'.unfold = ns' at hu ⊢
  cases hu with
  | nil => exact .nil
  | cons hn hrest =>
    cases hn with
    | program hs => exact .cons (.program hs) hrest
    | markup hs => exact .cons (.markup hs) hrest
    | control _ _ => exact hrest
    | expression tagName hs => exact .cons (.expression tagName hs) hrest

theorem Buffer.cons_alike {f f' : Fragment} (hf : f.Alike f') : ∀ {b b' : Buffer},
    List.Forall₂ Fragment.Alike b b' →
    List.Forall₂ Fragment.Alike (Buffer.cons f b) (Buffer.cons f' b')
  | _, _, .nil => .cons hf .nil
  | g :: b, g' :: b', .cons hg hb => by
    have hkind : ∀ {x x' : Fragment}, x.Alike x' → x.kind = x'.kind := by
      rintro x x' (_ | _) <;> rfl
    rw [Buffer.cons, Buffer.cons, hkind hf, hkind hg]
    split
    · next hk =>
      refine .cons ?_ hb
      -- a joined run is the same on both sides unless some piece of it was retexted
      cases hf with
      | same =>
        cases hg with
        | same => exact .same _
        | inked hv hv' =>
          simp only at hk
          rw [hk]
          refine .inked ?_ ?_
          · rw [hasInk_append, hv, Bool.or_true]
          · rw [hasInk_append, hv', Bool.or_true]
      | inked hv hv' =>
        refine .inked ?_ ?_
        · rw [hasInk_append, hv, Bool.true_or]
        · rw [hasInk_append, hv', Bool.true_or]
    · exact .cons hf (.cons hg hb)

theorem runs_alike {ls ls' : List Leaf} (h : List.Forall₂ Leaf.Alike ls ls') :
    List.Forall₂ Fragment.Alike (runs (ls.map Leaf.toFragment))
      (runs (ls'.map Leaf.toFragment)) := by
  induction h with
  | nil => exact .nil
  | cons hl _ ih => exact Buffer.cons_alike hl.1 ih

/-! ## Alike texts -/

/-- Two texts that are equal except for the arguments of some write statements, which hold no line
    feed. -/
inductive TextAlike : Text → Text → Prop
  | nil : TextAlike [] []
  | char (c : Char) {s s' : Text} : TextAlike s s' → TextAlike (c :: s) (c :: s')
  | write {arg arg' s s' : Text} : '\n' ∉ arg → '\n' ∉ arg' → TextAlike s s' →
      TextAlike (writeStatement arg ++ s) (writeStatement arg' ++ s')

theorem TextAlike.append_left (p : Text) {s s' : Text} (h : TextAlike s s') :
    TextAlike (p ++ s) (p ++ s') := by
  induction p with
  | nil => exact h
  | cons c p ih => exact .char c ih

theorem flatten_alike {b b' : Buffer} (h : List.Forall₂ Fragment.Alike b b') :
    TextAlike b.flatten b'.flatten := by
  induction h with
  | nil => exact .nil
  | @cons f f' b b' hf _ ih =>
    show TextAlike (f.render ++ Buffer.flatten b) (f'.render ++ Buffer.flatten b')
    cases hf with
    | same => exact ih.append_left f.render
    | inked hv hv' =>
      rw [render_literal, render_literal, if_pos hv, if_pos hv']
      exact .write (Go.newline_not_mem_quote _) (Go.newline_not_mem_quote _) ih

/-- Two lines that are equal, or end with write statements after equal text. -/
inductive LineAlike : Text → Text → Prop
  | same (l : Text) : LineAlike l l
  | write (p arg arg' : Text) : LineAlike (p ++ writeStatement arg) (p ++ writeStatement arg')

theorem LineAlike.indistinct {l l' : Text} (h : LineAlike l l') : Indistinct l l' := by
  cases h with
  | same => exact ⟨fun _ => rfl, fun _ => rfl⟩
  | write p arg arg' => exact indistinct_writeStatement p arg arg'

/-- **Alike texts have pairwise alike lines.**  `p` is what already stands on the first line. -/
theorem TextAlike.lines {s s' : Text} (h : TextAlike s s') {p : Text} (hp : '\n' ∉ p) :
    List.Forall₂ LineAlike (lineSpans (p ++ s)) (lineSpans (p ++ s')) := by
  induction h generalizing p with
  | nil => exact List.forall₂_same.2 fun l _ => .same l
  | @char c s s' _ ih =>
    by_cases hc : c = '\n'
    · subst hc
      rw [lineSpans_append_newline hp, lineSpans_append_newline hp]
      exact .cons (.same _) (ih (p := []) List.not_mem_nil)
    · have hpc : '\n' ∉ p ++ [c] := by
        simp [hp, Ne.symm hc]
      have hrest := ih hpc
      rwa [List.append_assoc, List.append_assoc] at hrest
  | write ha ha' _ ih =>
    rw [lineSpans_writeStatement hp ha, lineSpans_writeStatement hp ha']
    exact .cons (.write p _ _) (ih (p := []) List.not_mem_nil)

theorem leavesText_alike {ls ls' : List Leaf} (h : List.Forall₂ Leaf.Alike ls ls') :
    List.Forall₂ LineAlike (lineSpans (leavesText ls)) (lineSpans (leavesText ls')) :=
  (flatten_alike (runs_alike h)).lines (p := []) List.not_mem_nil

/-! ## The outline of an output -/

/-- What an output looks like from outside the texts of its lines. -/
structure Outline where
  function : Text
  params : List Param
  layout : Option Text
  imports : List Text
  /-- The names of the sections, each with its number of lines. -/
  sections : List (Text × Nat)
  /-- The number of lines of the body. -/
  lines : Nat
deriving DecidableEq

/-- The outline of an output. -/
def Output.outline (o : Output) : Outline where
  function := o.file.function
  params := o.file.params
  layout := o.layout
  imports := o.file.imports
  sections := o.file.sections.map fun s => (s.name, (lineSpans s.body).length)
  lines := (lineSpans o.file.body).length

/-- The lines that the passes keep or lift are the lines of the body and of the sections. -/
theorem Job.outline_output (job : Job) (d : Draft) {template text : Text}
    {lifted : List Text × List (Text × List Text)}
    (h : regionLines template (lineSpans text) = .ok lifted) :
    (job.output d lifted).outline =
      { function := job.name
        params := d.params
        layout := d.layout
        imports := (d.imports.require bytesImport).required
        sections := lifted.2.map fun s => (s.1, s.2.length)
        lines := lifted.1.length } := by
  obtain ⟨ks, ss⟩ := lifted
  obtain ⟨hks, hss⟩ := regionLines_sublist h
  have hbody : lineSpans ks.flatten = ks := lineSpans_flatten_of_sublist hks
  have hsections : (ss.map fun s => (⟨s.1, s.2.flatten⟩ : Section)).map
      (fun s => (s.name, (lineSpans s.body).length)) = ss.map fun s => (s.1, s.2.length) := by
    rw [List.map_map]
    refine List.map_congr_left fun s hs => ?_
    show (s.1, (lineSpans s.2.flatten).length) = _
    rw [lineSpans_flatten_of_sublist (hss s hs)]
  simp only [Output.outline, Job.output, Job.file, glue, hbody, hsections]

theorem escapes_alike {ls ls' : List Leaf} (h : List.Forall₂ Leaf.Alike ls ls') :
    ls.any Leaf.escapes = ls'.any Leaf.escapes := by
  induction h with
  | nil => rfl
  | cons hl _ ih => rw [List.any_cons, List.any_cons, hl.2, ih]

/-- Sections with the same names and pairwise alike lines have the same outline. -/
theorem sections_alike {ss ss' : List (Text × List Text)}
    (h : List.Forall₂ (fun s s' => s.1 = s'.1 ∧ List.Forall₂ LineAlike s.2 s'.2) ss ss') :
    ss.map (fun s => (s.1, s.2.length)) = ss'.map fun s => (s.1, s.2.length) := by
  induction h with
  | nil => rfl
  | cons hs _ ih => rw [List.map_cons, List.map_cons, hs.1, hs.2.length_eq, ih]

/-- Two bodies with alike leaves fail alike or have outputs with the same outline. -/
theorem Job.outline_alike (job : Job) (d : Draft) {ls ls' : List Leaf}
    (h : List.Forall₂ Leaf.Alike ls ls') :
    ((regionLines job.template (lineSpans (leavesText ls))).map
        (job.output (d.takeAll job ls))).map Output.outline
      = ((regionLines job.template (lineSpans (leavesText ls'))).map
        (job.output (d.takeAll job ls'))).map Output.outline := by
  have hsame := regionLines_related (fun _ _ hl => LineAlike.indistinct hl) (leavesText_alike h)
    job.template
  cases hr : regionLines job.template (lineSpans (leavesText ls)) with
  | error e =>
    rw [hr] at hsame
    generalize regionLines job.template (lineSpans (leavesText ls')) = r' at hsame
    cases hsame
    rfl
  | ok lifted =>
    cases hr' : regionLines job.template (lineSpans (leavesText ls')) with
    | error e =>
      rw [hr, hr'] at hsame
      nomatch hsame
    | ok lifted' =>
      rw [hr, hr'] at hsame
      cases hsame with
      | ok hlift =>
        show Except.ok (job.output _ lifted).outline = Except.ok (job.output _ lifted').outline
        rw [job.outline_output _ hr, job.outline_output _ hr', Draft.takeAll_imports,
          Draft.takeAll_imports, escapes_alike h, hlift.1.length_eq, sections_alike hlift.2]
        simp

/-- **Markup text cannot influence the structure of the generated file.**  Change the texts of
    markup tokens outside the diverted control node, each text that changes having ink before and
    after: compilation fails on both trees with the same error, or succeeds on both with the same
    function, parameters, layout, imports and sections, and with as many lines in each. -/
theorem outline_of_retexted {root root' : Node} (h : root.Retexted root')
    (hdiverted : root.diverted? = root'.diverted?) (path : Text) (options : Options) :
    (compile ⟨path, root⟩ options).map Output.outline
      = (compile ⟨path, root'⟩ options).map Output.outline := by
  let job := Job.ofPath path options
  show (job.compile root).map Output.outline = (job.compile root').map Output.outline
  have hopened : job.opened root = job.opened root' := by
    rw [Job.opened, Job.opened, hdiverted]
  rw [job.compile_eq, job.compile_eq, hopened]
  cases job.opened root' with
  | error e => rfl
  | ok d => exact job.outline_alike d (h.body.leaves_alike job d.params)

/-- A parameter, then a section with a text in it, behind expression text that no frame closes. -/
def sectionAround (text : Text) : Node :=
  .program [
    .control [] [.token ⟨.other "CODE".toList, "var title string".toList⟩],
    .control [] [.token ⟨.other "CODE".toList, "section side \x7b".toList⟩],
    .markup [
      .node (.expression [] [
        .token ⟨.other "TEXT".toList, "title".toList⟩,
        .node (.markup [.token ⟨.other "TEXT".toList, text⟩])])],
    .control [] [.token ⟨.other "CODE".toList, "\x7d".toList⟩]]

/-- A text that reads like the end of a region and the header of another changes as little as any
    other. -/
theorem outline_sectionAround :
    (sectionAround "<p>".toList).Retexted (sectionAround "\x7d\nblock b \x7b".toList)
      ∧ (compile ⟨"a/b.gohtml".toList, sectionAround "<p>".toList⟩ {}).map Output.outline
        = (compile ⟨"a/b.gohtml".toList, sectionAround "\x7d\nblock b \x7b".toList⟩ {}).map
          Output.outline := by
  have h : (sectionAround "<p>".toList).Retexted (sectionAround "\x7d\nblock b \x7b".toList) := by
    refine .program (.cons (.control _ (.token _ (.nil _))) ?_)
    refine .cons (.control _ (.token _ (.nil _))) (.cons (.markup (.node ?_ (.nil _))) ?_)
    · refine .expression _ (.token _ (.node (.markup ?_) (.nil _)))
      exact .text rfl (by decide) (by decide) (.nil _)
    · exact .cons (.control _ (.token _ (.nil _))) .nil
  exact ⟨h, outline_of_retexted h rfl "a/b.gohtml".toList {}⟩

end GoTemplate
