/-
  What a first node leaves behind.

  A control node that comes first is walked into a buffer of its own and read as declarations, from
  whatever draft the walk has reached.  The walk into the buffer cannot fail.  It leaves one trace,
  the escape package if some expression in the node opens a call of it, so reading starts from the
  draft as it was up to that ONE spec (`Draft.UpTo`, `Job.visit_first`).

  Declarations are then taken in until one is refused.  Two facts about that loop are enough: a
  refusal stops it right before the second layout (`Draft.refused_of_registerAll`), and drafts that
  are the same up to one spec stay so (`Draft.UpTo.registerAll`).
-/
import GoTemplate.Proofs.SingleReading

namespace GoTemplate

/-! ## Drafts up to one spec -/

/-- The same parameters and the same layout, and at most `spec` is required in addition. -/
structure Draft.UpTo (spec : Text) (d e : Draft) : Prop where
  params : e.params = d.params
  layout : e.layout = d.layout
  imports : e.imports = d.imports ∨ e.imports = d.imports.require spec

namespace Draft

variable {template spec : Text}

/-- Requiring one more spec on both sides. -/
theorem UpTo.require {d e : Draft} (h : d.UpTo spec e) (x : Text) :
    e.imports.require x = d.imports.require x
      ∨ e.imports.require x = (d.imports.require x).require spec := by
  rcases h.imports with himports | himports
  · exact .inl (by rw [himports])
  · exact .inr (by rw [himports, ImportSet.require_comm])

/-- **One declaration** is taken in by both or by neither, and they stay the same up to the spec. -/
theorem UpTo.register {d e e' : Draft} (h : d.UpTo spec e) {decl : Declaration}
    (hok : e.register template decl = .ok e') :
    ∃ d', d.register template decl = .ok d' ∧ d'.UpTo spec e' := by
  cases decl with
  | param p =>
    cases hok
    exact ⟨_, rfl, by rw [h.params], h.layout, h.imports⟩
  | importing i =>
    rw [Draft.register] at hok ⊢
    split at hok
    · next x hx =>
      cases hok
      exact ⟨_, rfl, h.params, h.layout, h.require x⟩
    · next name side hx =>
      rw [h.layout] at hok
      split at hok
      · cases hok
      · cases hok
        exact ⟨_, rfl, h.params, rfl, h.require side⟩

/-- Declarations in turn. -/
theorem UpTo.registerAll {d e e' : Draft} (h : d.UpTo spec e) {decls : List Declaration}
    (hok : e.registerAll template decls = .ok e') :
    ∃ d', d.registerAll template decls = .ok d' ∧ d'.UpTo spec e' := by
  induction decls generalizing d e with
  | nil =>
    cases hok
    exact ⟨d, rfl, h⟩
  | cons decl rest ih =>
    rw [Draft.registerAll] at hok
    cases hstep : e.register template decl with
    | error halt => rw [hstep] at hok; cases hok
    | ok e₁ =>
      rw [hstep] at hok
      obtain ⟨d₁, hd₁, h₁⟩ := h.register hstep
      obtain ⟨d', hd', h'⟩ := ih h₁ hok
      refine ⟨d', ?_, h'⟩
      rw [Draft.registerAll, hd₁]
      exact hd'

/-! ## Refusals -/

/-- Only a layout import is refused, and only if there is a layout already. -/
theorem refused_of_register {d : Draft} {decl : Declaration} {halt : Halt}
    (h : d.register template decl = .error halt) :
    ∃ i first second side, decl = .importing i ∧ i.effect = .layout second side
      ∧ d.layout = some first ∧ halt = ⟨⟨template, .duplicateLayout first second⟩, d⟩ := by
  cases decl with
  | param p => cases h
  | importing i =>
    rw [Draft.register] at h
    split at h
    · cases h
    · next second side heffect =>
      split at h
      · next first hfirst =>
        cases h
        exact ⟨i, first, second, side, rfl, heffect, hfirst, rfl⟩
      · cases h

/-- **A list that is refused is taken in up to the second layout**, and the draft is left there. -/
theorem refused_of_registerAll {d : Draft} {decls : List Declaration} {halt : Halt}
    (h : d.registerAll template decls = .error halt) :
    ∃ before i after first second side, decls = before ++ .importing i :: after
      ∧ i.effect = .layout second side ∧ d.registerAll template before = .ok halt.draft
      ∧ halt.draft.layout = some first
      ∧ halt.error = ⟨template, .duplicateLayout first second⟩ := by
  induction decls generalizing d with
  | nil => cases h
  | cons decl rest ih =>
    rw [Draft.registerAll] at h
    cases hstep : d.register template decl with
    | error halt' =>
      rw [hstep] at h
      cases h
      obtain ⟨i, first, second, side, rfl, heffect, hfirst, rfl⟩ := refused_of_register hstep
      exact ⟨[], i, rest, first, second, side, rfl, heffect, rfl, hfirst, rfl⟩
    | ok d₁ =>
      rw [hstep] at h
      obtain ⟨before, i, after, first, second, side, rfl, heffect, hbefore, hfirst, herror⟩ := ih h
      refine ⟨decl :: before, i, after, first, second, side, rfl, heffect, ?_, hfirst, herror⟩
      rw [Draft.registerAll, hstep]
      exact hbefore

/-- Declarations leave the body alone, whether they are refused or not. -/
theorem parts_registerAll (d : Draft) (decls : List Declaration) :
    (reached (d.registerAll template decls)).parts = d.parts := by
  cases h : d.registerAll template decls with
  | ok d' => exact (registered_of_registerAll h).parts
  | error halt =>
    obtain ⟨before, _, _, _, _, _, -, -, hbefore, -, -⟩ := refused_of_registerAll h
    exact (registered_of_registerAll hbefore).parts

theorem parts_declare (d : Draft) (text : Text) :
    (reached (d.declare template text)).parts = d.parts := by
  rw [declare]
  split
  · rfl
  · exact d.parts_registerAll _

end Draft

/-! ## The first node -/

/-- A draft that has walked a first node with these leaves, before its text is read. -/
def Draft.primed (job : Job) (d : Draft) (ls : List Leaf) : Draft :=
  { d with imports := (d.takeAll job ls).imports, firstNodeSeen := true }

theorem Draft.upTo_primed (job : Job) (d : Draft) (ls : List Leaf) :
    d.UpTo job.options.namespacePath (d.primed job ls) := by
  refine ⟨rfl, rfl, ?_⟩
  show (d.takeAll job ls).imports = _ ∨ (d.takeAll job ls).imports = _
  rw [Draft.takeAll_imports]
  split
  · exact .inr rfl
  · exact .inl rfl

/-- **A control node that comes first is read from the draft as it was**, its own leaves only
    requiring what they require. -/
theorem Job.visit_first (job : Job) (enclosing : Option Mode) (tagName : Text)
    (children : List Child) {d : Draft} (hseen : d.firstNodeSeen = false) :
    job.visit enclosing (.control tagName children) d
      = (d.primed job ((Node.control tagName children).leaves job d.params enclosing)).declare
          job.template
          (leavesText ((Node.control tagName children).leaves job d.params enclosing)) := by
  let aside : Draft := { d with parts := [], firstNodeSeen := true }
  let ls := (Node.control tagName children).leaves job d.params enclosing
  have hwalk : job.visitControl (hasBracePair children) true children aside
      = .ok (aside.takeAll job ls) :=
    visitControl_of_seen job (hasBracePair children) true children aside rfl
  have hparts : (aside.takeAll job ls).parts.flatten = leavesText ls :=
    congrArg Buffer.flatten (Draft.takeAll_parts job aside ls [] rfl)
  have hrestored : { aside.takeAll job ls with parts := d.parts } = d.primed job ls := by
    have hparams := Draft.takeAll_params job aside ls
    have hlayout := Draft.takeAll_layout job aside ls
    have hmet := Draft.takeAll_firstNodeSeen job aside ls
    have himports := Draft.takeAll_imports job aside ls
    rw [Draft.primed, Draft.takeAll_imports, ← show aside.imports = d.imports from rfl, ← himports]
    generalize aside.takeAll job ls = e at hparams hlayout hmet ⊢
    obtain ⟨parts, params, imports, layout, seen⟩ := e
    cases hparams
    cases hlayout
    cases hmet
    rfl
  rw [Job.visit, hseen, if_neg Bool.false_ne_true, hwalk]
  show { aside.takeAll job ls with parts := d.parts }.declare job.template
    (aside.takeAll job ls).parts.flatten = _
  rw [hrestored, hparts]

/-- What is left of a draft when a first node with this text fails.  If the text is no list of
    declarations, parameters and layout are as they were.  If a second layout comes, the
    declarations in front of it have been taken in and no other. -/
inductive FirstNodeTrace (job : Job) (d : Draft) (text : Text) : Halt → Prop
  | declaration {e : Draft} {line : Nat} {refused : Text} :
      parseDeclarations text = .error ⟨line, refused⟩ →
      d.UpTo job.options.namespacePath e →
      FirstNodeTrace job d text ⟨⟨job.template, .declaration line refused⟩, e⟩
  | duplicateLayout {d' e : Draft} {before after : List Declaration} {i : Import}
      {first second side : Text} :
      parseDeclarations text = .ok (before ++ .importing i :: after) →
      i.effect = .layout second side →
      d.registerAll job.template before = .ok d' →
      d'.UpTo job.options.namespacePath e → e.layout = some first →
      FirstNodeTrace job d text ⟨⟨job.template, .duplicateLayout first second⟩, e⟩

/-- **A first node never disturbs the body, and a failure leaves exactly its trace.** -/
theorem first_node_frame (job : Job) (enclosing : Option Mode) (tagName : Text)
    (children : List Child) (d : Draft) (hseen : d.firstNodeSeen = false) :
    (reached (job.visit enclosing (.control tagName children) d)).parts = d.parts
      ∧ ∀ halt, job.visit enclosing (.control tagName children) d = .error halt →
          FirstNodeTrace job d
            (leavesText ((Node.control tagName children).leaves job d.params enclosing)) halt := by
  rw [job.visit_first enclosing tagName children hseen]
  refine ⟨Draft.parts_declare _ _, fun halt h => ?_⟩
  have hprimed := d.upTo_primed job ((Node.control tagName children).leaves job d.params enclosing)
  rw [Draft.declare] at h
  split at h
  · next e he =>
    cases h
    exact .declaration he hprimed
  · next decls hdecls =>
    obtain ⟨before, i, after, first, second, side, rfl, heffect, hbefore, hfirst, herror⟩ :=
      Draft.refused_of_registerAll h
    obtain ⟨d', hd', hupTo⟩ := hprimed.registerAll hbefore
    obtain ⟨error, e⟩ := halt
    obtain rfl : error = ⟨job.template, .duplicateLayout first second⟩ := herror
    exact .duplicateLayout hdecls heffect hd' hupTo hfirst

/-- A second layout in the middle of the declarations, met when the body has begun. -/
theorem first_node_frame_second_layout :
    ∃ (job : Job) (children : List Child) (d e : Draft),
      d.firstNodeSeen = false ∧ d.parts ≠ []
        ∧ job.visit (some .program) (.control [] children) d
          = .error ⟨⟨job.template, .duplicateLayout "a/layout/x".toList "b/layout/x".toList⟩, e⟩
        ∧ e.params = [⟨"y".toList, "int".toList⟩]
        ∧ e.parts = d.parts
        ∧ FirstNodeTrace job d
            (leavesText ((Node.control [] children).leaves job d.params (some .program)))
            ⟨⟨job.template, .duplicateLayout "a/layout/x".toList "b/layout/x".toList⟩, e⟩ := by
  let job := Job.ofPath "home/index.gohtml".toList {}
  let children : List Child := [.token ⟨.other "CONTENT".toList,
    "import \"a/layout/x\"; var y int\nimport \"b/layout/x\"; var w int".toList⟩]
  let d : Draft := ({} : Draft).push .control "begun".toList
  let e : Draft := { d with
    params := [⟨"y".toList, "int".toList⟩], imports := d.imports.require "\"a/layout\"".toList
    layout := some "a/layout/x".toList, firstNodeSeen := true }
  have hvisit : job.visit (some .program) (.control [] children) d
      = .error ⟨⟨job.template, .duplicateLayout "a/layout/x".toList "b/layout/x".toList⟩, e⟩ := by
    decide +kernel
  obtain ⟨hparts, htrace⟩ := first_node_frame job (some .program) [] children d rfl
  rw [hvisit] at hparts
  exact ⟨job, children, d, e, rfl, by decide, hvisit, rfl, hparts, htrace _ hvisit⟩

end GoTemplate
