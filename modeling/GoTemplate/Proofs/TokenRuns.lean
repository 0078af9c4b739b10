/-
  The buffer is the run-length form of what the tokens of a tree contribute.

  `Node.placed` lists ALL tokens of a tree in document order, each with its place: the mode of its
  parent, its siblings, its index among them.  What a token contributes is decided by its place
  alone (`Job.contribution`).  The walk, with its modes, slots, flag and exchanged buffers, comes to
  this: the contributions of all tokens but those of the diverted node, cut into maximal runs of one
  kind, each run joined (`Job.parts_of_visit`).

  1. The leaves of a tree are the contributions of its tokens (`Node.map_leaves`).  The index of a
     token says what the walk keeps in flags: whether it is first, whether nothing follows.
  2. Gluing at the end, piece by piece, is cutting into maximal runs at once (`runs_eq_runLength`).
  3. So consecutive markup tokens count only through their joined values, as long as there is one
     (`compile_retokenised`).  An EMPTY sequence will not do: a token without a value still ends
     the run before it.
-/
import GoTemplate.Proofs.Contexts
import Mathlib.Data.List.SplitBy

namespace GoTemplate

/-! ## Tokens and their places -/

/-- A token of a tree, and where it stands. -/
structure PlacedToken where
  token : Token
  /-- The mode of the node it is a child of. -/
  parent : Mode
  /-- That node stands directly inside an expression. -/
  nested : Bool
  /-- All children of that node. -/
  siblings : List Child
  /-- The position among them, from zero. -/
  index : Nat

mutual

/-- The tokens of a tree in document order; `nested` if it stands directly inside an expression. -/
def Node.placed (nested : Bool) : Node → List PlacedToken
  | .program children => nodesPlaced children
  | .markup children => childrenPlaced .markup nested children 0 children
  | .control _ children => childrenPlaced .control nested children 0 children
  | .expression _ children => childrenPlaced .expression nested children 0 children
termination_by structural n => n

/-- The tokens of the nodes of a program. -/
def nodesPlaced : List Node → List PlacedToken
  | [] => []
  | n :: rest => n.placed false ++ nodesPlaced rest
termination_by structural ns => ns

/-- The tokens of some of the `siblings`, the first of them at `index`, and of the nodes among
    them. -/
def childrenPlaced (parent : Mode) (nested : Bool) (siblings : List Child) (index : Nat) :
    List Child → List PlacedToken
  | [] => []
  | .token t :: rest =>
    ⟨t, parent, nested, siblings, index⟩ :: childrenPlaced parent nested siblings (index + 1) rest
  | .node n :: rest =>
    n.placed (parent == .expression) ++ childrenPlaced parent nested siblings (index + 1) rest
termination_by structural cs => cs

end

namespace PlacedToken

variable (p : PlacedToken)

/-- One of the two braces around all children of a node. -/
def isBrace : Bool :=
  hasBracePair p.siblings && (p.index == 0 || p.index + 1 == p.siblings.length)

/-- The place as an expression counts it. -/
def slot : Slot := ⟨p.index, p.siblings.length, !anyNonExpression p.siblings, p.nested⟩

end PlacedToken

/-- What a token contributes to the body: its value in markup, its value in a control node unless it
    is one of the braces, its value in its frame in an expression.  A program has no tokens. -/
def Job.contribution (job : Job) (params : List Param) (p : PlacedToken) : Option Fragment :=
  match p.parent with
  | .program => none
  | .markup => some ⟨.literal, p.token.value⟩
  | .control => if p.isBrace then none else some ⟨.control, p.token.value⟩
  | .expression =>
    some ⟨.expression, p.slot.opening job params p.token.value ++ shownValue p.token.value
      ++ p.slot.closing job.options⟩

section

variable (job : Job) (params : List Param)

mutual

/-- **The leaves of a tree are the contributions of its tokens.** -/
theorem Node.map_leaves : ∀ (n : Node) (enclosing : Option Mode),
    (n.leaves job params enclosing).map Leaf.toFragment
      = (n.placed (enclosing == some .expression)).filterMap (job.contribution params)
  | .program ns, _ => map_nodesLeaves ns
  | .markup cs, _ => map_markupLeaves cs _ cs 0
  | .control _ cs, _ => map_controlLeaves cs [] _
  | .expression _ cs, _ => map_expressionLeaves cs _ cs 0
termination_by structural n => n

theorem map_nodesLeaves : ∀ (ns : List Node),
    (nodesLeaves job params ns).map Leaf.toFragment
      = (nodesPlaced ns).filterMap (job.contribution params)
  | [] => rfl
  | n :: rest => by
    rw [nodesLeaves, nodesPlaced, List.map_append, List.filterMap_append,
      Node.map_leaves n (some .program), map_nodesLeaves rest]
    rfl
termination_by structural ns => ns

theorem map_markupLeaves : ∀ (cs : List Child) (nested : Bool) (siblings : List Child)
    (index : Nat), (markupLeaves job params cs).map Leaf.toFragment
      = (childrenPlaced .markup nested siblings index cs).filterMap (job.contribution params)
  | [], _, _, _ => rfl
  | .token t :: rest, nested, siblings, index =>
    congrArg (_ :: ·) (map_markupLeaves rest nested siblings (index + 1))
  | .node n :: rest, nested, siblings, index => by
    rw [markupLeaves, childrenPlaced, List.map_append, List.filterMap_append,
      Node.map_leaves n (some .markup), map_markupLeaves rest nested siblings (index + 1)]
    rfl
termination_by structural cs => cs

/-- A node is no brace, so in a pair of braces some child is on either side of it. -/
theorem map_controlLeaves : ∀ (cs before : List Child) (nested : Bool),
    (controlLeaves job params (hasBracePair (before ++ cs)) before.isEmpty cs).map Leaf.toFragment
      = (childrenPlaced .control nested (before ++ cs) before.length cs).filterMap
          (job.contribution params)
  | [], _, _ => rfl
  | .token t :: rest, before, nested => by
    have hseen : (before ++ [Child.token t]).isEmpty = false := by cases before <;> rfl
    have hrest := map_controlLeaves rest (before ++ [.token t]) nested
    rw [hseen, List.append_assoc, List.singleton_append, List.length_append,
      List.length_singleton] at hrest
    let p : PlacedToken := ⟨t, .control, nested, before ++ .token t :: rest, before.length⟩
    have hbrace : p.isBrace
        = (hasBracePair (before ++ .token t :: rest) && (before.isEmpty || rest.isEmpty)) := by
      have hfirst : (before.length == 0) = before.isEmpty := by cases before <;> rfl
      have hlast : (before.length + 1 == (before ++ Child.token t :: rest).length)
          = rest.isEmpty := by
        rw [List.length_append, List.length_cons]
        cases rest with
        | nil => exact beq_self_eq_true _
        | cons c rest => exact beq_false_of_ne (by rw [List.length_cons]; omega)
      simp only [PlacedToken.isBrace, p, hfirst, hlast]
    have hfragment : job.contribution params p
        = if p.isBrace then none else some ⟨.control, t.value⟩ := rfl
    rw [controlLeaves, childrenPlaced, List.filterMap_cons, hfragment, hbrace, ← hrest]
    split
    · rfl
    · rfl
  | .node n :: rest, before, nested => by
    have hseen : (before ++ [Child.node n]).isEmpty = false := by cases before <;> rfl
    have hrest := map_controlLeaves rest (before ++ [.node n]) nested
    rw [hseen, List.append_assoc, List.singleton_append, List.length_append,
      List.length_singleton] at hrest
    have hkept : ¬(hasBracePair (before ++ .node n :: rest)
        && (before.isEmpty || rest.isEmpty)) = true := by
      intro h
      obtain ⟨hpair, hend⟩ := Bool.and_eq_true_iff.1 h
      obtain ⟨hbefore, hafter⟩ := hasBracePair_insert hpair
      rcases Bool.or_eq_true_iff.1 hend with hend | hend
      · exact hbefore (List.isEmpty_iff.1 hend)
      · exact hafter (List.isEmpty_iff.1 hend)
    rw [controlLeaves, if_neg hkept, childrenPlaced, List.map_append, List.filterMap_append,
      Node.map_leaves n (some .control), hrest]
    rfl
termination_by structural cs => cs

theorem map_expressionLeaves : ∀ (cs : List Child) (nested : Bool) (siblings : List Child)
    (index : Nat),
    (expressionLeaves job params ⟨index, siblings.length, !anyNonExpression siblings, nested⟩
        cs).map Leaf.toFragment
      = (childrenPlaced .expression nested siblings index cs).filterMap (job.contribution params)
  | [], _, _, _ => rfl
  | .token t :: rest, nested, siblings, index =>
    congrArg (_ :: ·) (map_expressionLeaves rest nested siblings (index + 1))
  | .node n :: rest, nested, siblings, index => by
    rw [expressionLeaves, childrenPlaced, List.map_append, List.filterMap_append,
      Node.map_leaves n (some .expression)]
    exact congrArg (_ ++ ·) (map_expressionLeaves rest nested siblings (index + 1))
termination_by structural cs => cs

end

end

/-! ## Maximal runs -/

/-- A run as one fragment: its kind, and its values in order. -/
def joinRun (run : List Fragment) : Option Fragment :=
  run.head?.map fun f => ⟨f.kind, run.flatMap (·.value)⟩

/-- The run-length form of fragments: maximal runs of one kind, each joined. -/
def runLength (fs : List Fragment) : Buffer :=
  (fs.splitBy fun f g => f.kind == g.kind).filterMap joinRun

/-- A run in front of a fragment of another kind becomes one fragment. -/
theorem foldr_cons_run {k : FragmentKind} {run : List Fragment} (hne : run ≠ [])
    (hrun : ∀ f ∈ run, f.kind = k) {b : Buffer} (hb : ∀ g ∈ b.head?, g.kind ≠ k) :
    run.foldr Buffer.cons b = ⟨k, run.flatMap (·.value)⟩ :: b := by
  induction run with
  | nil => exact absurd rfl hne
  | cons f run ih =>
    obtain ⟨hf, hrest⟩ := List.forall_mem_cons.1 hrun
    rw [List.foldr_cons, List.flatMap_cons]
    by_cases hlast : run = []
    · subst hlast
      rw [List.foldr_nil, List.flatMap_nil, List.append_nil, ← hf]
      cases b with
      | nil => rfl
      | cons g b =>
        have hkind : ¬f.kind = g.kind := fun h => hb g rfl (h.symm.trans hf)
        rw [Buffer.cons, if_neg hkind]
    · rw [ih hlast hrest, Buffer.cons, if_pos hf, hf]

/-- All fragments of a run are of the kind of the first. -/
theorem kind_of_isChain {f : Fragment} {run : List Fragment}
    (h : (f :: run).IsChain fun f g => (f.kind == g.kind) = true) :
    ∀ g ∈ f :: run, g.kind = f.kind := by
  induction run generalizing f with
  | nil =>
    intro g hg
    rw [List.mem_singleton.1 hg]
  | cons f' run ih =>
    obtain ⟨hkind, hrest⟩ := List.isChain_cons_cons.1 h
    intro g hg
    rcases List.mem_cons.1 hg with rfl | hg
    · rfl
    · exact (ih hrest g hg).trans (eq_of_beq hkind).symm

/-- **Gluing piece by piece is cutting into maximal runs at once.** -/
theorem runs_eq_runLength (fs : List Fragment) : runs fs = runLength fs := by
  let r : Fragment → Fragment → Bool := fun f g => f.kind == g.kind
  have hne : [] ∉ fs.splitBy r := List.nil_notMem_splitBy r fs
  have hchain : ∀ run ∈ fs.splitBy r, run.IsChain fun f g => r f g = true :=
    fun run hrun => List.isChain_of_mem_splitBy hrun
  have hapart := List.isChain_getLast_head_splitBy r fs
  have hflat : (fs.splitBy r).flatten = fs := List.flatten_splitBy r fs
  show runs fs = (fs.splitBy r).filterMap joinRun
  nth_rewrite 1 [← hflat]
  generalize fs.splitBy r = gs at hne hchain hapart
  -- from the last run to the first, each put in front of one that begins with another kind
  induction gs with
  | nil => rfl
  | cons run gs ih =>
    obtain ⟨hrun, hrest⟩ := not_or.1 (mt List.mem_cons.2 hne)
    obtain ⟨hsame, hothers⟩ := List.forall_mem_cons.1 hchain
    obtain ⟨f, run, rfl⟩ := List.exists_cons_of_ne_nil (Ne.symm hrun)
    have hkind := kind_of_isChain hsame
    have hb : ∀ g ∈ (gs.filterMap joinRun).head?, g.kind ≠ f.kind := by
      intro g hg
      cases gs with
      | nil => cases hg
      | cons run' gs =>
        obtain ⟨hlast, hhead, hdiffer⟩ := (List.isChain_cons_cons.1 hapart).1
        obtain ⟨f', run', rfl⟩ := List.exists_cons_of_ne_nil hhead
        cases hg
        intro heq
        have hend := hkind _ (List.getLast_mem hlast)
        exact ne_of_beq_false hdiffer (hend.trans heq.symm)
    rw [List.flatten_cons, runs, List.foldr_append, ← runs, ih hrest hothers hapart.tail,
      foldr_cons_run (List.cons_ne_nil f run) hkind hb]
    rfl

/-- Neighbours in the run-length form are of different kinds. -/
theorem Buffer.isChain_cons (f : Fragment) {b : Buffer}
    (hb : b.IsChain fun f g => f.kind ≠ g.kind) :
    (Buffer.cons f b).IsChain fun f g => f.kind ≠ g.kind := by
  cases b with
  | nil => exact .singleton f
  | cons g b =>
    rw [Buffer.cons]
    split
    · next hkind =>
      -- the joined fragment is of the kind of the one it replaces
      rw [List.isChain_cons] at hb ⊢
      exact ⟨fun x hx => hkind ▸ hb.1 x hx, hb.2⟩
    · next hkind => exact .cons_cons hkind hb

theorem isChain_runs (fs : List Fragment) : (runs fs).IsChain fun f g => f.kind ≠ g.kind := by
  induction fs with
  | nil => exact .nil
  | cons f fs ih => exact Buffer.isChain_cons f ih

/-! ## The walk -/

theorem nodesPlaced_append (ns ms : List Node) :
    nodesPlaced (ns ++ ms) = nodesPlaced ns ++ nodesPlaced ms := by
  induction ns with
  | nil => rfl
  | cons n ns ih => rw [List.cons_append, nodesPlaced, nodesPlaced, ih, List.append_assoc]

mutual

/-- Opening up programs keeps the tokens. -/
theorem nodesPlaced_unfold : ∀ n : Node, nodesPlaced n.unfold = n.placed false
  | .program children => nodesPlaced_unfoldNodes children
  | .markup _ => List.append_nil _
  | .control _ _ => List.append_nil _
  | .expression _ _ => List.append_nil _

theorem nodesPlaced_unfoldNodes : ∀ ns : List Node, nodesPlaced (unfoldNodes ns) = nodesPlaced ns
  | [] => rfl
  | n :: rest => by
    rw [unfoldNodes, nodesPlaced_append, nodesPlaced_unfold n, nodesPlaced_unfoldNodes rest,
      nodesPlaced]

end

/-- The tokens of a tree are those of the diverted node, then those of the body. -/
theorem Node.placed_eq (root : Node) :
    root.placed false = nodesPlaced root.diverted?.toList ++ nodesPlaced root.body := by
  rw [← nodesPlaced_append, ← nodesPlaced_unfold]
  cases hd : root.diverted? with
  | none => rw [(Node.unfold_of_not_diverted hd).1]; rfl
  | some n => rw [(Node.unfold_of_diverted hd).2]; rfl

/-- **The walk leaves the run-length form of what the tokens of the body contribute.** -/
theorem Job.parts_of_visit {job : Job} {root : Node} {d : Draft}
    (h : job.visit none root (Draft.start job) = .ok d) :
    d.parts = runs ((nodesPlaced root.body).filterMap (job.contribution d.params)) := by
  by_cases hne : root.unfold = []
  · -- no node at all
    have hbody : root.body = [] := by rw [Node.body, hne]
    rw [job.visit_none, hne] at h
    cases h
    rw [hbody]
    rfl
  · rw [job.visit_root hne] at h
    cases hopened : job.opened root with
    | error e => rw [hopened] at h; cases h
    | ok d₀ =>
      rw [hopened] at h
      cases h
      rw [Draft.takeAll_params, ← map_nodesLeaves]
      exact Draft.takeAll_parts job d₀ _ [] (Job.opened_frame hopened).1

/-! ## Other tokens with the same values -/

theorem markupLeaves_append (job : Job) (params : List Param) (cs ds : List Child) :
    markupLeaves job params (cs ++ ds)
      = markupLeaves job params cs ++ markupLeaves job params ds := by
  induction cs with
  | nil => rfl
  | cons c cs ih =>
    cases c with
    | token t => exact congrArg (_ :: ·) ih
    | node n => rw [List.cons_append, markupLeaves, markupLeaves, ih, List.append_assoc]

/-- Tokens of markup add their values as one literal, if there is a token. -/
theorem takeAll_markupTokens (job : Job) (params : List Param) (d : Draft) {ts : List Token}
    (hne : ts ≠ []) :
    d.takeAll job (markupLeaves job params (ts.map .token))
      = d.push .literal (ts.flatMap Token.value) := by
  induction ts generalizing d with
  | nil => exact absurd rfl hne
  | cons t ts ih =>
    show (d.push .literal t.value).takeAll job (markupLeaves job params (ts.map .token)) = _
    by_cases hlast : ts = []
    · subst hlast
      rw [List.flatMap_cons, List.flatMap_nil, List.append_nil]
      rfl
    · rw [ih _ hlast, List.flatMap_cons, Draft.push, Draft.push, Buffer.push_push]
      rfl

/-- **Only the joined values of consecutive markup tokens count**, in any template. -/
theorem compile_retokenised (job : Job) (c : Context) (before after : List Child)
    {ts ts' : List Token} (hne : ts ≠ []) (hne' : ts' ≠ [])
    (hvalues : ts.flatMap Token.value = ts'.flatMap Token.value) :
    job.compile (c.plug (.markup (before ++ ts.map .token ++ after)))
      = job.compile (c.plug (.markup (before ++ ts'.map .token ++ after))) := by
  refine Context.compile_plug job (by rfl) (by rfl) (by rfl) c ?_
  generalize job.paramsAt c _ = params
  show SameEffect job (markupLeaves job params (before ++ ts.map .token ++ after))
    (markupLeaves job params (before ++ ts'.map .token ++ after))
  simp only [markupLeaves_append]
  refine ((SameEffect.refl job _).append fun d => ?_).append (.refl job _)
  rw [takeAll_markupTokens job params d hne, takeAll_markupTokens job params d hne', hvalues]

/-- **The buffer is the run-length form of the tokens in document order.**  The tokens of a tree are
    those of the diverted node and then those of the body.  A walk that succeeds leaves the
    contributions of the latter, in maximal runs of one kind, each joined; so no two neighbours are
    of one kind.  And consecutive markup tokens can be exchanged for any others, at least one, with
    the same values joined: compilation yields the same. -/
theorem buffer_run_length (path : Text) (options : Options) (root : Node) :
    root.placed false = nodesPlaced root.diverted?.toList ++ nodesPlaced root.body
    ∧ (∀ d,
        (Job.ofPath path options).visit none root (Draft.start (Job.ofPath path options)) = .ok d →
        d.parts = runLength
          ((nodesPlaced root.body).filterMap ((Job.ofPath path options).contribution d.params))
        ∧ d.parts.IsChain fun f g => f.kind ≠ g.kind)
    ∧ ∀ (c : Context) (before after : List Child) (ts ts' : List Token),
        root = c.plug (.markup (before ++ ts.map .token ++ after)) →
        ts ≠ [] → ts' ≠ [] → ts.flatMap Token.value = ts'.flatMap Token.value →
        compile ⟨path, root⟩ options
          = compile ⟨path, c.plug (.markup (before ++ ts'.map .token ++ after))⟩ options := by
  refine ⟨root.placed_eq, ?_, ?_⟩
  · intro d hd
    have hparts := Job.parts_of_visit hd
    constructor
    · rw [hparts, runs_eq_runLength]
    · rw [hparts]
      exact isChain_runs _
  · rintro c before after ts ts' rfl hne hne' hvalues
    exact compile_retokenised (Job.ofPath path options) c before after hne hne' hvalues

/-- A list of declarations, then a paragraph with an interpolation, braces around a statement, and
    more markup; the paragraph begins with the given tokens. -/
def paragraph (tokens : List Token) : Node :=
  .program [
    .control [] [.token ⟨.other "CODE".toList, "var x int".toList⟩],
    .markup (tokens.map .token ++ [
      .node (.expression [] [.token ⟨.other "NAME".toList, "x".toList⟩])]),
    .control [] [
      .token ⟨.other "BRACE".toList, "\x7b".toList⟩,
      .token ⟨.other "CODE".toList, "x = 0".toList⟩,
      .node (.markup [.token ⟨.other "TEXT".toList, "a".toList⟩]),
      .token ⟨.other "BRACE".toList, "\x7d".toList⟩],
    .markup [.token ⟨.other "TEXT".toList, "b".toList⟩]]

/-- The marker joins the run of the text before it, the braces are left out, and the markup in them
    joins the markup behind them. -/
theorem buffer_run_length_paragraph :
    let ts : List Token := [⟨.other "TEXT".toList, "<p>".toList⟩, ⟨.atSign, "@".toList⟩]
    let ts' : List Token := [⟨.other "TEXT".toList, "<".toList⟩, ⟨.other "TEXT".toList, "p>".toList⟩]
    let job := Job.ofPath "views/index.gohtml".toList {}
    let parts : Buffer := [
      ⟨.literal, "<p>".toList⟩,
      ⟨.expression, "_buffer.WriteString(gotpl.HTMLEscape(x))\n".toList⟩,
      ⟨.control, "x = 0".toList⟩, ⟨.literal, "ab".toList⟩]
    (∃ d, job.visit none (paragraph ts) (Draft.start job) = .ok d ∧ d.parts = parts
      ∧ parts = runLength ((nodesPlaced (paragraph ts).body).filterMap (job.contribution d.params)))
    ∧ compile ⟨"views/index.gohtml".toList, paragraph ts⟩ {}
      = compile ⟨"views/index.gohtml".toList, paragraph ts'⟩ {} := by
  intro ts ts' job parts
  let d : Draft := {
    parts, params := [⟨"x".toList, "int".toList⟩]
    imports := (Draft.start job).imports.require job.options.namespacePath, firstNodeSeen := true }
  have hvisit : job.visit none (paragraph ts) (Draft.start job) = .ok d := by decide +kernel
  obtain ⟨-, hbuffer, hexchange⟩ := buffer_run_length "views/index.gohtml".toList {} (paragraph ts)
  refine ⟨⟨d, hvisit, rfl, (hbuffer d hvisit).1⟩, ?_⟩
  refine hexchange
    (.program [.control [] [.token ⟨.other "CODE".toList, "var x int".toList⟩]] .here _) []
    [.node (.expression [] [.token ⟨.other "NAME".toList, "x".toList⟩])] ts ts' rfl
    (List.cons_ne_nil _ _) (List.cons_ne_nil _ _) rfl

end GoTemplate
