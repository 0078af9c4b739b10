/-
  The walk over a tree, as the list of what its tokens add.

  Once some node has been met, a walk cannot fail and its state is of no consequence to the text:
  each token adds one LEAF, a fragment that depends only on the token, its place in the tree and
  the parameters in force.  `Node.leaves` lists them in document order, and a walk takes them in
  one by one (`visit_of_seen`).

  What happens before some node has been met is settled by the first node that is no program.
  `Node.unfold` lists the nodes of a tree with its programs opened up, so that this node is simply
  the head: if it is a control node it is DIVERTED and read as declarations, and all else is body
  (`Job.visit_root`, and `Job.compile_eq` for the passes after the walk).
-/
import GoTemplate.Compile
import GoTemplate.Proofs.Declarations
import GoTemplate.Proofs.Imports
import GoTemplate.Proofs.RegionGrammar
import GoTemplate.Proofs.Runs

namespace GoTemplate

/-! ## Leaves -/

/-- What one token adds: a fragment, and whether it opens a call of the escape function. -/
structure Leaf extends Fragment where
  escapes : Bool
deriving DecidableEq

/-- A draft with one more leaf. -/
def Draft.take (job : Job) (d : Draft) (l : Leaf) : Draft :=
  { d.push l.kind l.value with
    imports := if l.escapes then d.imports.require job.options.namespacePath else d.imports }

/-- A draft with more leaves, in order. -/
def Draft.takeAll (job : Job) (d : Draft) (ls : List Leaf) : Draft := ls.foldl (Draft.take job) d

/-- The leaf of a token in an expression. -/
def Slot.leaf (slot : Slot) (job : Job) (params : List Param) (t : Token) : Leaf where
  kind := .expression
  value := slot.opening job params t.value ++ shownValue t.value ++ slot.closing job.options
  escapes := slot.escapes job params t.value

/-- The slot of the next child. -/
def Slot.succ (slot : Slot) : Slot := { slot with index := slot.index + 1 }

/-- The slot of the first child of an expression. -/
def Slot.first (enclosing : Option Mode) (children : List Child) : Slot :=
  ⟨0, children.length, !anyNonExpression children, enclosing == some .expression⟩

mutual

/-- The leaves of a tree in document order; `params` are the parameters in force. -/
def Node.leaves (job : Job) (params : List Param) (enclosing : Option Mode) : Node → List Leaf
  | .program children => nodesLeaves job params children
  | .markup children => markupLeaves job params children
  | .control _ children => controlLeaves job params (hasBracePair children) true children
  | .expression _ children => expressionLeaves job params (Slot.first enclosing children) children
termination_by structural n => n

/-- The leaves of the nodes of a program. -/
def nodesLeaves (job : Job) (params : List Param) : List Node → List Leaf
  | [] => []
  | n :: rest => n.leaves job params (some .program) ++ nodesLeaves job params rest
termination_by structural ns => ns

/-- The leaves of the children of a markup node. -/
def markupLeaves (job : Job) (params : List Param) : List Child → List Leaf
  | [] => []
  | .token t :: rest => ⟨⟨.literal, t.value⟩, false⟩ :: markupLeaves job params rest
  | .node n :: rest => n.leaves job params (some .markup) ++ markupLeaves job params rest
termination_by structural cs => cs

/-- The leaves of the children of a control node, its pair of braces left out. -/
def controlLeaves (job : Job) (params : List Param) (braced atStart : Bool) :
    List Child → List Leaf
  | [] => []
  | c :: rest =>
    if braced && (atStart || rest.isEmpty) then controlLeaves job params braced false rest
    else match c with
      | .token t => ⟨⟨.control, t.value⟩, false⟩ :: controlLeaves job params braced false rest
      | .node n => n.leaves job params (some .control) ++ controlLeaves job params braced false rest
termination_by structural cs => cs

/-- The leaves of the children of an expression, the first of them in `slot`. -/
def expressionLeaves (job : Job) (params : List Param) (slot : Slot) : List Child → List Leaf
  | [] => []
  | .token t :: rest => slot.leaf job params t :: expressionLeaves job params slot.succ rest
  | .node n :: rest =>
    n.leaves job params (some .expression) ++ expressionLeaves job params slot.succ rest
termination_by structural cs => cs

end

/-! ## What a leaf can be -/

/-- A leaf that a token adds: its value, in markup and in a control node, or its value in the frame
    of an expression. -/
inductive Leaf.Added (job : Job) (params : List Param) : Leaf → Prop
  | markup (t : Token) : Leaf.Added job params ⟨⟨.literal, t.value⟩, false⟩
  | control (t : Token) : Leaf.Added job params ⟨⟨.control, t.value⟩, false⟩
  | expression (s : Slot) (t : Token) : Leaf.Added job params (s.leaf job params t)

section

variable (job : Job) (params : List Param)

mutual

/-- **Every leaf of a tree is added by a token.** -/
theorem Node.leaves_added : ∀ (n : Node) (enclosing : Option Mode),
    ∀ l ∈ n.leaves job params enclosing, l.Added job params
  | .program ns, _, l, hl => nodesLeaves_added ns l hl
  | .markup cs, _, l, hl => markupLeaves_added cs l hl
  | .control _ cs, _, l, hl => controlLeaves_added cs _ true l hl
  | .expression _ cs, _, l, hl => expressionLeaves_added cs _ l hl
termination_by structural n => n

theorem nodesLeaves_added : ∀ (ns : List Node),
    ∀ l ∈ nodesLeaves job params ns, l.Added job params
  | [], l, hl => absurd hl List.not_mem_nil
  | n :: rest, l, hl => by
    rcases List.mem_append.1 hl with hl | hl
    · exact Node.leaves_added n (some .program) l hl
    · exact nodesLeaves_added rest l hl
termination_by structural ns => ns

theorem markupLeaves_added : ∀ (cs : List Child),
    ∀ l ∈ markupLeaves job params cs, l.Added job params
  | [], l, hl => absurd hl List.not_mem_nil
  | .token t :: rest, l, hl => by
    rcases List.mem_cons.1 hl with rfl | hl
    · exact .markup t
    · exact markupLeaves_added rest l hl
  | .node n :: rest, l, hl => by
    rcases List.mem_append.1 hl with hl | hl
    · exact Node.leaves_added n (some .markup) l hl
    · exact markupLeaves_added rest l hl
termination_by structural cs => cs

theorem controlLeaves_added : ∀ (cs : List Child) (braced atStart : Bool),
    ∀ l ∈ controlLeaves job params braced atStart cs, l.Added job params
  | [], _, _, l, hl => absurd hl List.not_mem_nil
  | .token t :: rest, braced, atStart, l, hl => by
    rw [controlLeaves] at hl
    split at hl
    · exact controlLeaves_added rest braced false l hl
    · rcases List.mem_cons.1 hl with rfl | hl
      · exact .control t
      · exact controlLeaves_added rest braced false l hl
  | .node n :: rest, braced, atStart, l, hl => by
    rw [controlLeaves] at hl
    split at hl
    · exact controlLeaves_added rest braced false l hl
    · rcases List.mem_append.1 hl with hl | hl
      · exact Node.leaves_added n (some .control) l hl
      · exact controlLeaves_added rest braced false l hl
termination_by structural cs => cs

theorem expressionLeaves_added : ∀ (cs : List Child) (slot : Slot),
    ∀ l ∈ expressionLeaves job params slot cs, l.Added job params
  | [], _, l, hl => absurd hl List.not_mem_nil
  | .token t :: rest, slot, l, hl => by
    rcases List.mem_cons.1 hl with rfl | hl
    · exact .expression slot t
    · exact expressionLeaves_added rest slot.succ l hl
  | .node n :: rest, slot, l, hl => by
    rcases List.mem_append.1 hl with hl | hl
    · exact Node.leaves_added n (some .expression) l hl
    · exact expressionLeaves_added rest slot.succ l hl
termination_by structural cs => cs

end

end

/-! ## Braces -/

/-- The token that a child is, if it is one. -/
def Child.token? : Child → Option Token
  | .token t => some t
  | .node _ => none

/-- Whether there is a pair of braces can be read off the tokens. -/
theorem hasBracePair_eq_of_tokens {cs cs' : List Child}
    (h : cs.map Child.token? = cs'.map Child.token?) : hasBracePair cs = hasBracePair cs' := by
  cases cs with
  | nil => rw [List.map_eq_nil_iff.1 h.symm]
  | cons c rest =>
    cases cs' with
    | nil => cases h
    | cons c' rest' =>
      obtain ⟨hc, hrest⟩ := List.cons.inj h
      -- the last child matters only as a token
      have hlast : rest.getLast?.map Child.token? = rest'.getLast?.map Child.token? := by
        rw [← List.getLast?_map, ← List.getLast?_map, hrest]
      cases c with
      | node _ =>
        cases c' with
        | node _ => rfl
        | token _ => cases hc
      | token t =>
        cases c' with
        | node _ => cases hc
        | token t' =>
          cases hc
          rw [hasBracePair, hasBracePair]
          generalize rest.getLast? = o at hlast
          generalize rest'.getLast? = o' at hlast
          rcases o with _ | (_ | _) <;> rcases o' with _ | (_ | _) <;> cases hlast <;> rfl

/-! ## Taking leaves in -/

theorem Draft.takeAll_append (job : Job) (d : Draft) (ls ms : List Leaf) :
    d.takeAll job (ls ++ ms) = (d.takeAll job ls).takeAll job ms :=
  List.foldl_append

@[simp] theorem Draft.takeAll_params (job : Job) (d : Draft) (ls : List Leaf) :
    (d.takeAll job ls).params = d.params := by
  induction ls generalizing d with
  | nil => rfl
  | cons l ls ih => exact ih (d.take job l)

@[simp] theorem Draft.takeAll_layout (job : Job) (d : Draft) (ls : List Leaf) :
    (d.takeAll job ls).layout = d.layout := by
  induction ls generalizing d with
  | nil => rfl
  | cons l ls ih => exact ih (d.take job l)

@[simp] theorem Draft.takeAll_firstNodeSeen (job : Job) (d : Draft) (ls : List Leaf) :
    (d.takeAll job ls).firstNodeSeen = d.firstNodeSeen := by
  induction ls generalizing d with
  | nil => rfl
  | cons l ls ih => exact ih (d.take job l)

/-- The body that leaves make up is the runs of their fragments. -/
theorem Draft.takeAll_parts (job : Job) (d : Draft) (ls : List Leaf) (fs : List Fragment)
    (hd : d.parts = runs fs) :
    (d.takeAll job ls).parts = runs (fs ++ ls.map Leaf.toFragment) := by
  induction ls generalizing d fs with
  | nil => rw [List.map_nil, List.append_nil]; exact hd
  | cons l ls ih =>
    have hl : (d.take job l).parts = runs (fs ++ [l.toFragment]) := by
      rw [runs_concat, ← hd]; rfl
    have hrest := ih (d.take job l) (fs ++ [l.toFragment]) hl
    rw [List.append_assoc] at hrest
    exact hrest

/-- The escape package is required if some leaf opens a call of it. -/
theorem Draft.takeAll_imports (job : Job) (d : Draft) (ls : List Leaf) :
    (d.takeAll job ls).imports
      = if ls.any Leaf.escapes then d.imports.require job.options.namespacePath else d.imports := by
  induction ls generalizing d with
  | nil => rfl
  | cons l ls ih =>
    show ((d.take job l).takeAll job ls).imports = _
    rw [ih, List.any_cons]
    cases hl : l.escapes with
    | false => simp [Draft.take, hl]
    | true => simp [Draft.take, hl, ImportSet.require_require]

/-! ## A walk that has met a node -/

mutual

/-- **The walk takes in the leaves** of a tree, once some node has been met. -/
theorem visit_of_seen (job : Job) (enclosing : Option Mode) : ∀ (n : Node) (d : Draft),
    d.firstNodeSeen = true →
    job.visit enclosing n d = .ok (d.takeAll job (n.leaves job d.params enclosing))
  | .program children, d, h => visitNodes_of_seen job children d h
  | .markup children, d, h => by
    have hd : { d with firstNodeSeen := true } = d := by rw [← h]
    rw [Job.visit, hd]
    exact visitMarkup_of_seen job children d h
  | .control _ children, d, h => by
    rw [Job.visit, if_pos h]
    exact visitControl_of_seen job (hasBracePair children) true children d h
  | .expression _ children, d, h => by
    have hd : { d with firstNodeSeen := true } = d := by rw [← h]
    rw [Job.visit, hd]
    exact visitExpression_of_seen job (Slot.first enclosing children) children d h

theorem visitNodes_of_seen (job : Job) : ∀ (ns : List Node) (d : Draft),
    d.firstNodeSeen = true →
    job.visitNodes ns d = .ok (d.takeAll job (nodesLeaves job d.params ns))
  | [], _, _ => rfl
  | n :: rest, d, h => by
    rw [Job.visitNodes, visit_of_seen job (some .program) n d h, nodesLeaves, Draft.takeAll_append]
    -- leaves declare nothing, so the rest is walked with the same parameters
    have hrest := visitNodes_of_seen job rest
      (d.takeAll job (n.leaves job d.params (some .program))) (by simpa using h)
    rw [Draft.takeAll_params] at hrest
    exact hrest

theorem visitMarkup_of_seen (job : Job) : ∀ (cs : List Child) (d : Draft),
    d.firstNodeSeen = true →
    job.visitMarkup cs d = .ok (d.takeAll job (markupLeaves job d.params cs))
  | [], _, _ => rfl
  | .token t :: rest, d, h => visitMarkup_of_seen job rest (d.push .literal t.value) h
  | .node n :: rest, d, h => by
    rw [Job.visitMarkup, visit_of_seen job (some .markup) n d h, markupLeaves, Draft.takeAll_append]
    have hrest := visitMarkup_of_seen job rest
      (d.takeAll job (n.leaves job d.params (some .markup))) (by simpa using h)
    rw [Draft.takeAll_params] at hrest
    exact hrest

theorem visitControl_of_seen (job : Job) (braced : Bool) : ∀ (atStart : Bool) (cs : List Child)
    (d : Draft), d.firstNodeSeen = true →
    job.visitControl braced atStart cs d
      = .ok (d.takeAll job (controlLeaves job d.params braced atStart cs))
  | _, [], _, _ => rfl
  | atStart, .token t :: rest, d, h => by
    rw [Job.visitControl, controlLeaves]
    split
    · exact visitControl_of_seen job braced false rest d h
    · exact visitControl_of_seen job braced false rest (d.push .control t.value) h
  | atStart, .node n :: rest, d, h => by
    rw [Job.visitControl, controlLeaves]
    split
    · exact visitControl_of_seen job braced false rest d h
    · rw [visit_of_seen job (some .control) n d h, Draft.takeAll_append]
      have hrest := visitControl_of_seen job braced false rest
        (d.takeAll job (n.leaves job d.params (some .control))) (by simpa using h)
      rw [Draft.takeAll_params] at hrest
      exact hrest

theorem visitExpression_of_seen (job : Job) : ∀ (slot : Slot) (cs : List Child) (d : Draft),
    d.firstNodeSeen = true →
    job.visitExpression slot cs d
      = .ok (d.takeAll job (expressionLeaves job d.params slot cs))
  | _, [], _, _ => rfl
  | slot, .token t :: rest, d, h =>
    visitExpression_of_seen job slot.succ rest (d.interpolate job t slot) h
  | slot, .node n :: rest, d, h => by
    rw [Job.visitExpression, visit_of_seen job (some .expression) n d h, expressionLeaves,
      Draft.takeAll_append]
    have hrest := visitExpression_of_seen job slot.succ rest
      (d.takeAll job (n.leaves job d.params (some .expression))) (by simpa using h)
    rw [Draft.takeAll_params] at hrest
    exact hrest

end

/-- An expression is walked alike whether or not some node has been met before. -/
theorem Job.visit_expression (job : Job) (enclosing : Option Mode) (tagName : Text)
    (cs : List Child) (d : Draft) :
    job.visit enclosing (.expression tagName cs) d
      = .ok (Draft.takeAll job { d with firstNodeSeen := true }
          ((Node.expression tagName cs).leaves job d.params enclosing)) :=
  visitExpression_of_seen job (Slot.first enclosing cs) cs { d with firstNodeSeen := true } rfl

/-! ## Opening up programs -/

mutual

/-- The nodes of a tree that are no programs and lie in no other such node, in document order. -/
def Node.unfold : Node → List Node
  | .program children => unfoldNodes children
  | .markup children => [.markup children]
  | .control tagName children => [.control tagName children]
  | .expression tagName children => [.expression tagName children]
termination_by structural n => n

/-- The same for the nodes of a program. -/
def unfoldNodes : List Node → List Node
  | [] => []
  | n :: rest => n.unfold ++ unfoldNodes rest
termination_by structural ns => ns

end

theorem Job.visitNodes_append (job : Job) (ns ms : List Node) (d : Draft) :
    job.visitNodes (ns ++ ms) d = (job.visitNodes ns d).bind (job.visitNodes ms) := by
  induction ns generalizing d with
  | nil => rfl
  | cons n ns ih =>
    rw [List.cons_append, Job.visitNodes, Job.visitNodes]
    cases job.visit (some .program) n d with
    | error h => rfl
    | ok d' => exact ih d'

theorem Job.visitNodes_singleton (job : Job) (n : Node) (d : Draft) :
    job.visitNodes [n] d = job.visit (some .program) n d := by
  rw [Job.visitNodes]
  cases job.visit (some .program) n d <;> rfl

mutual

theorem Job.visit_unfold (job : Job) : ∀ (n : Node) (d : Draft),
    job.visit (some .program) n d = job.visitNodes n.unfold d
  | .program children, d => job.visitNodes_unfold children d
  | .markup children, d => (job.visitNodes_singleton (.markup children) d).symm
  | .control tagName children, d => (job.visitNodes_singleton (.control tagName children) d).symm
  | .expression tagName children, d =>
    (job.visitNodes_singleton (.expression tagName children) d).symm

theorem Job.visitNodes_unfold (job : Job) : ∀ (ns : List Node) (d : Draft),
    job.visitNodes ns d = job.visitNodes (unfoldNodes ns) d
  | [], _ => rfl
  | n :: rest, d => by
    rw [Job.visitNodes, unfoldNodes, job.visitNodes_append, job.visit_unfold n d]
    cases job.visitNodes n.unfold d with
    | error h => rfl
    | ok d' => exact job.visitNodes_unfold rest d'

end

mutual

/-- Opening up programs keeps the leaves. -/
theorem nodesLeaves_unfold (job : Job) (params : List Param) : ∀ n : Node,
    nodesLeaves job params n.unfold = n.leaves job params (some .program)
  | .program children => nodesLeaves_unfoldNodes job params children
  | .markup _ => List.append_nil _
  | .control _ _ => List.append_nil _
  | .expression _ _ => List.append_nil _

theorem nodesLeaves_unfoldNodes (job : Job) (params : List Param) : ∀ ns : List Node,
    nodesLeaves job params (unfoldNodes ns) = nodesLeaves job params ns
  | [] => rfl
  | n :: rest => by
    have happend : ∀ ms ks : List Node, nodesLeaves job params (ms ++ ks)
        = nodesLeaves job params ms ++ nodesLeaves job params ks := by
      intro ms ks
      induction ms with
      | nil => rfl
      | cons m ms ih => rw [List.cons_append, nodesLeaves, nodesLeaves, ih, List.append_assoc]
    rw [unfoldNodes, happend, nodesLeaves_unfold job params n,
      nodesLeaves_unfoldNodes job params rest, nodesLeaves]

end

/-- A root is walked like a node of a program. -/
theorem Job.visit_none (job : Job) (n : Node) (d : Draft) :
    job.visit none n d = job.visitNodes n.unfold d := by
  rw [← job.visit_unfold]
  cases n <;> rfl

/-! ## The diverted node and the body -/

/-- The control node whose text is read as declarations: the first node of the tree that is no
    program, if it is a control node. -/
def Node.diverted? (root : Node) : Option Node :=
  match root.unfold with
  | .control tagName children :: _ => some (.control tagName children)
  | _ => none

/-- The nodes that make up the body. -/
def Node.body (root : Node) : List Node :=
  match root.unfold with
  | .control _ _ :: rest => rest
  | ns => ns

theorem Node.split_of_control {root n : Node} {ns : List Node} (hu : root.unfold = n :: ns)
    (hn : n.mode = .control) : root.diverted? = some n ∧ root.body = ns := by
  rw [Node.diverted?, Node.body, hu]
  cases n with
  | control tagName cs => exact ⟨rfl, rfl⟩
  | program | markup | expression => cases hn

theorem Node.split_of_not_control {root n : Node} {ns : List Node} (hu : root.unfold = n :: ns)
    (hn : n.mode ≠ .control) : root.diverted? = none ∧ root.body = n :: ns := by
  rw [Node.diverted?, Node.body, hu]
  cases n with
  | control tagName cs => exact absurd rfl hn
  | program | markup | expression => exact ⟨rfl, rfl⟩

/-- The diverted node is a control node, and comes before the body. -/
theorem Node.unfold_of_diverted {root n : Node} (h : root.diverted? = some n) :
    n.mode = .control ∧ root.unfold = n :: root.body := by
  rw [Node.diverted?] at h
  rw [Node.body]
  split at h
  · next hu =>
    cases h
    rw [hu]
    exact ⟨rfl, rfl⟩
  · cases h

/-- Without a diverted node everything is body, and does not begin with a control node. -/
theorem Node.unfold_of_not_diverted {root : Node} (h : root.diverted? = none) :
    root.unfold = root.body ∧ ∀ n ∈ root.unfold.head?, n.mode ≠ .control := by
  cases hu : root.unfold with
  | nil =>
    rw [Node.body, hu]
    exact ⟨rfl, nofun⟩
  | cons n ns =>
    have hn : n.mode ≠ .control := by
      intro hn
      rw [(Node.split_of_control hu hn).1] at h
      cases h
    refine ⟨(Node.split_of_not_control hu hn).2.symm, fun m hm => ?_⟩
    cases hm
    exact hn

/-- The text of the leaves of a walk that starts with an empty buffer. -/
def leavesText (ls : List Leaf) : Text := (runs (ls.map Leaf.toFragment)).flatten

/-- The draft of a job that has met a node. -/
def Draft.fresh (job : Job) : Draft := { Draft.start job with firstNodeSeen := true }

/-- A draft with an empty body. -/
def Draft.emptied (d : Draft) : Draft := { d with parts := [] }

/-- Read leaves as declarations. -/
def Job.readDeclarations (job : Job) (ls : List Leaf) : Outcome :=
  ((Draft.fresh job).takeAll job ls).emptied.declare job.template (leavesText ls)

/-- The draft before the body: fresh, or with the declarations of the diverted node taken in. -/
def Job.opened (job : Job) (root : Node) : Outcome :=
  match root.diverted? with
  | none => .ok (Draft.fresh job)
  | some n => job.readDeclarations (n.leaves job [] (some .program))

/-! ## Declarations leave the body alone -/

theorem Draft.declare_frame {template text : Text} {d d' : Draft}
    (h : d.declare template text = .ok d') :
    d'.parts = d.parts ∧ d'.firstNodeSeen = d.firstNodeSeen := by
  rw [Draft.declare] at h
  cases hdecls : parseDeclarations text with
  | error e => rw [hdecls] at h; cases h
  | ok decls =>
    rw [hdecls] at h
    have hregistered := Draft.registered_of_registerAll h
    exact ⟨hregistered.parts, hregistered.firstNodeSeen⟩

theorem Job.opened_frame {job : Job} {root : Node} {d : Draft} (h : job.opened root = .ok d) :
    d.parts = [] ∧ d.firstNodeSeen = true := by
  rw [Job.opened] at h
  split at h
  · cases h; exact ⟨rfl, rfl⟩
  · obtain ⟨hp, hs⟩ := Draft.declare_frame h
    exact ⟨hp, hs.trans (Draft.takeAll_firstNodeSeen job (Draft.fresh job) _)⟩

/-! ## The walk over a whole tree -/

/-- A control node that comes first is diverted. -/
theorem Job.visit_diverted (job : Job) (tagName : Text) (children : List Child) :
    job.visit (some .program) (.control tagName children) (Draft.start job)
      = job.readDeclarations ((Node.control tagName children).leaves job [] (some .program)) := by
  have hwalk := visitControl_of_seen job (hasBracePair children) true children (Draft.fresh job) rfl
  have hparts := Draft.takeAll_parts job (Draft.fresh job)
    (controlLeaves job [] (hasBracePair children) true children) [] rfl
  show job.absorb [] (job.visitControl (hasBracePair children) true children (Draft.fresh job)) = _
  rw [hwalk]
  show Draft.declare job.template _ (Buffer.flatten (Draft.takeAll job _ _).parts) = _
  rw [show (Draft.fresh job).params = [] from rfl, hparts]
  rfl

mutual

/-- Opening up programs leaves none. -/
theorem Node.mode_of_mem_unfold : ∀ {root n : Node}, n ∈ root.unfold → n.mode ≠ .program
  | .program _, _, h => mode_of_mem_unfoldNodes h
  | .markup _, _, h => by rw [List.mem_singleton.1 h]; exact nofun
  | .control _ _, _, h => by rw [List.mem_singleton.1 h]; exact nofun
  | .expression _ _, _, h => by rw [List.mem_singleton.1 h]; exact nofun

theorem mode_of_mem_unfoldNodes : ∀ {ns : List Node} {n : Node}, n ∈ unfoldNodes ns →
    n.mode ≠ .program
  | [], _, h => absurd h List.not_mem_nil
  | m :: _, _, h => by
    rcases List.mem_append.1 h with h | h
    · exact Node.mode_of_mem_unfold h
    · exact mode_of_mem_unfoldNodes h

end

/-- **A walk is the declarations and then the leaves of the body**, if the tree holds a node that
    is no program. -/
theorem Job.visit_root (job : Job) {root : Node} (hne : root.unfold ≠ []) :
    job.visit none root (Draft.start job)
      = (job.opened root).map fun d => d.takeAll job (nodesLeaves job d.params root.body) := by
  obtain ⟨n, rest, hu⟩ := List.exists_cons_of_ne_nil hne
  have hmem : n ∈ root.unfold := hu ▸ List.mem_cons_self
  rw [job.visit_none, hu]
  -- a first node that is no control node is walked as if some node had been met
  have hbody : n.mode ≠ .control → job.visit (some .program) n (Draft.start job)
        = job.visit (some .program) n (Draft.fresh job) →
      job.visitNodes (n :: rest) (Draft.start job)
        = (job.opened root).map fun d => d.takeAll job (nodesLeaves job d.params root.body) := by
    intro hn hv
    obtain ⟨hd, hb⟩ := Node.split_of_not_control hu hn
    rw [Job.visitNodes, hv, ← Job.visitNodes, Job.opened, hd, hb]
    exact visitNodes_of_seen job (n :: rest) (Draft.fresh job) rfl
  cases n with
  | program _ => exact absurd rfl (Node.mode_of_mem_unfold hmem)
  | markup _ => exact hbody Mode.noConfusion rfl
  | expression _ _ => exact hbody Mode.noConfusion rfl
  | control tagName children =>
    obtain ⟨hdiv, hb⟩ := Node.split_of_control hu rfl
    have ho : job.opened root
        = job.readDeclarations ((Node.control tagName children).leaves job [] (some .program)) := by
      rw [Job.opened, hdiv]
    rw [Job.visitNodes, job.visit_diverted, ← ho, hb]
    cases hd : job.opened root with
    | error h => rfl
    | ok d => exact visitNodes_of_seen job rest d (Job.opened_frame hd).2

/-! ## Compilation on leaves and lines -/

/-- The output for a finished draft and what the region passes made of its lines. -/
def Job.output (job : Job) (d : Draft) (lifted : List Text × List (Text × List Text)) : Output :=
  { file := job.file d (glue lifted).1 (glue lifted).2, layout := d.layout }

/-- The leaves of the body, where `d` is the draft before it. -/
def Job.bodyLeaves (job : Job) (root : Node) (d : Draft) : List Leaf :=
  nodesLeaves job d.params root.body

/-- The region passes on a finished draft. -/
theorem Job.compile_of_visit {job : Job} {root : Node} {d : Draft}
    (h : job.visit none root (Draft.start job) = .ok d) :
    job.compile root
      = (regionLines job.template (lineSpans d.parts.flatten)).map (job.output d) := by
  have hdo : job.compile root
      = ((stripBlocks job.template d.parts.flatten).bind (extractSections job.template)).map
          fun p => ⟨job.file d p.1 p.2, d.layout⟩ := by
    rw [Job.compile, h]
    show (stripBlocks job.template d.parts.flatten).bind (fun stripped =>
      (extractSections job.template stripped).bind fun p =>
        .ok (⟨job.file d p.1 p.2, d.layout⟩ : Output)) = _
    cases stripBlocks job.template d.parts.flatten with
    | error e => rfl
    | ok stripped =>
      show (extractSections job.template stripped).bind _
        = (extractSections job.template stripped).map _
      cases extractSections job.template stripped <;> rfl
  rw [hdo, stripBlocks_bind_extractSections]
  cases regionLines job.template (lineSpans d.parts.flatten) <;> rfl

/-- The walk as far as an output shows it: everything but whether some node was met. -/
theorem Job.visit_of_opened {job : Job} {root : Node} {d₀ : Draft} (h : job.opened root = .ok d₀) :
    ∃ d, job.visit none root (Draft.start job) = .ok d
      ∧ d.parts.flatten = leavesText (job.bodyLeaves root d₀)
      ∧ job.output d = job.output (d₀.takeAll job (job.bodyLeaves root d₀)) := by
  by_cases hne : root.unfold = []
  · -- no node at all: the draft is the first one, up to the flag
    have hd : root.diverted? = none := by rw [Node.diverted?, hne]
    have hb : root.body = [] := by rw [Node.body, hne]
    rw [Job.opened, hd] at h
    cases h
    refine ⟨Draft.start job, ?_, ?_, ?_⟩
    · rw [job.visit_none, hne]
      rfl
    · rw [Job.bodyLeaves, hb]
      rfl
    · rw [Job.bodyLeaves, hb]
      rfl
  · have hv := job.visit_root hne
    rw [h] at hv
    refine ⟨_, hv, ?_, rfl⟩
    have hparts := Draft.takeAll_parts job d₀ (job.bodyLeaves root d₀) [] (Job.opened_frame h).1
    exact congrArg Buffer.flatten hparts

/-- **Compilation on leaves and lines.** -/
theorem Job.compile_eq (job : Job) (root : Node) :
    job.compile root = match job.opened root with
      | .error h => .error h.error
      | .ok d =>
        (regionLines job.template (lineSpans (leavesText (job.bodyLeaves root d)))).map
          (job.output (d.takeAll job (job.bodyLeaves root d))) := by
  cases ho : job.opened root with
  | ok d₀ =>
    obtain ⟨d, hv, hparts, hout⟩ := Job.visit_of_opened ho
    rw [Job.compile_of_visit hv, hparts, hout]
  | error h =>
    have hne : root.unfold ≠ [] := by
      intro hnil
      rw [Job.opened, Node.diverted?, hnil] at ho
      nomatch ho
    have hv := job.visit_root hne
    rw [ho] at hv
    rw [Job.compile, hv]
    rfl

end GoTemplate
