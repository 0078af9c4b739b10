/-
  At most one control node of a run is read as declarations.

  A run is any sequence of visits that share one draft, and goes on after a visit that failed with
  the draft that visit had reached.  Which control nodes are read as declarations cannot be seen in
  a draft, so the walk is repeated here with a LOG: `Job.logVisit` walks like `Job.visit` and notes
  the children of a control node at the moment its text is set aside to be read.

  One inequality carries the argument (`Logged.Tracks.seen`): a visit adds no more entries to the
  log than it raises the flag `firstNodeSeen`, counted as zero or one.  It says at once that the
  flag is never lowered, that nothing is read once it is up, and that one reading raises it; and it
  adds up along a walk (`Logged.Tracks.bind`) and along a run (`Job.resume_seen`).
-/
import GoTemplate.Proofs.RequiredImports

namespace GoTemplate

/-! ## Drafts that failed walks leave -/

/-- The draft that a walk has reached, whether it failed or not. -/
def reached : Outcome → Draft
  | .ok d => d
  | .error h => h.draft

/-- Declarations never touch the flag, and what is required stays required. -/
theorem Draft.register_grows (template : Text) (d : Draft) (decl : Declaration) :
    (reached (d.register template decl)).firstNodeSeen = d.firstNodeSeen
      ∧ d.imports.required ⊆ (reached (d.register template decl)).imports.required := by
  have hrequire : ∀ spec : Text, d.imports.required ⊆ (d.imports.require spec).required :=
    fun spec x hx => (ImportSet.mem_required_require d.imports spec x).2 (.inr hx)
  cases decl with
  | param p => exact ⟨rfl, List.Subset.refl _⟩
  | importing i =>
    rw [Draft.register]
    split
    · exact ⟨rfl, hrequire _⟩
    · split
      · exact ⟨rfl, List.Subset.refl _⟩
      · exact ⟨rfl, hrequire _⟩

theorem Draft.registerAll_grows (template : Text) (d : Draft) (decls : List Declaration) :
    (reached (d.registerAll template decls)).firstNodeSeen = d.firstNodeSeen
      ∧ d.imports.required ⊆ (reached (d.registerAll template decls)).imports.required := by
  induction decls generalizing d with
  | nil => exact ⟨rfl, List.Subset.refl _⟩
  | cons decl rest ih =>
    obtain ⟨hseen, hrequired⟩ := d.register_grows template decl
    rw [Draft.registerAll]
    cases hr : d.register template decl with
    | error h =>
      rw [hr] at hseen hrequired
      exact ⟨hseen, hrequired⟩
    | ok d' =>
      rw [hr] at hseen hrequired
      obtain ⟨hseen', hrequired'⟩ := ih d'
      exact ⟨hseen'.trans hseen, List.Subset.trans hrequired hrequired'⟩

theorem Job.absorb_grows (job : Job) (parts : Buffer) (o : Outcome) :
    (reached (job.absorb parts o)).firstNodeSeen = (reached o).firstNodeSeen
      ∧ (reached o).imports.required ⊆ (reached (job.absorb parts o)).imports.required := by
  cases o with
  | error h => exact ⟨rfl, List.Subset.refl _⟩
  | ok d =>
    rw [Job.absorb, Draft.declare]
    split
    · exact ⟨rfl, List.Subset.refl _⟩
    · exact Draft.registerAll_grows job.template { d with parts } _

/-! ## The walk with a log -/

/-- How a walk ends, and the children of the control nodes that it read as declarations. -/
structure Logged where
  outcome : Outcome
  log : List (List Child)

/-- Go on with the draft of a walk that did not fail. -/
def Logged.bind (x : Logged) (f : Draft → Logged) : Logged :=
  match x.outcome with
  | .ok d => ⟨(f d).outcome, x.log ++ (f d).log⟩
  | .error h => ⟨.error h, x.log⟩

mutual

/-- Visit a node, and note the control node whose text is set aside to be read. -/
def Job.logVisit (job : Job) (enclosing : Option Mode) : Node → Draft → Logged
  | .program children, d => job.logNodes children d
  | .markup children, d => job.logMarkup children { d with firstNodeSeen := true }
  | .control _ children, d =>
    if d.firstNodeSeen then job.logControl (hasBracePair children) true children d
    else
      let inside := job.logControl (hasBracePair children) true children
        { d with parts := [], firstNodeSeen := true }
      ⟨job.absorb d.parts inside.outcome, children :: inside.log⟩
  | .expression _ children, d =>
    job.logExpression (Slot.first enclosing children) children { d with firstNodeSeen := true }
termination_by structural n => n

/-- Visit the nodes of a program. -/
def Job.logNodes (job : Job) : List Node → Draft → Logged
  | [], d => ⟨.ok d, []⟩
  | n :: rest, d => (job.logVisit (some .program) n d).bind (job.logNodes rest)
termination_by structural ns => ns

/-- Visit the children of a markup node. -/
def Job.logMarkup (job : Job) : List Child → Draft → Logged
  | [], d => ⟨.ok d, []⟩
  | .token t :: rest, d => job.logMarkup rest (d.push .literal t.value)
  | .node n :: rest, d => (job.logVisit (some .markup) n d).bind (job.logMarkup rest)
termination_by structural cs => cs

/-- Visit the children of a control node, its pair of braces left out. -/
def Job.logControl (job : Job) (braced atStart : Bool) : List Child → Draft → Logged
  | [], d => ⟨.ok d, []⟩
  | c :: rest, d =>
    if braced && (atStart || rest.isEmpty) then job.logControl braced false rest d
    else match c with
      | .token t => job.logControl braced false rest (d.push .control t.value)
      | .node n => (job.logVisit (some .control) n d).bind (job.logControl braced false rest)
termination_by structural cs => cs

/-- Visit the children of an expression, the first of them in `slot`. -/
def Job.logExpression (job : Job) (slot : Slot) : List Child → Draft → Logged
  | [], d => ⟨.ok d, []⟩
  | .token t :: rest, d => job.logExpression slot.succ rest (d.interpolate job t slot)
  | .node n :: rest, d =>
    (job.logVisit (some .expression) n d).bind (job.logExpression slot.succ rest)
termination_by structural cs => cs

end

/-! ## What one walk can do -/

/-- A logged walk from `d` that ends like `o`: it reads no more often than it raises the flag, and
    drops nothing that is required. -/
structure Logged.Tracks (d : Draft) (x : Logged) (o : Outcome) : Prop where
  outcome : x.outcome = o
  seen : d.firstNodeSeen.toNat + x.log.length ≤ (reached o).firstNodeSeen.toNat
  required : d.imports.required ⊆ (reached o).imports.required

/-- A walk that does nothing. -/
theorem Logged.Tracks.nil (d : Draft) : Logged.Tracks d ⟨.ok d, []⟩ (.ok d) :=
  ⟨rfl, Nat.le_refl _, List.Subset.refl _⟩

/-- A walk from a draft with more in it. -/
theorem Logged.Tracks.after {d d' : Draft} {x : Logged} {o : Outcome} (h : Tracks d' x o)
    (hseen : d.firstNodeSeen.toNat ≤ d'.firstNodeSeen.toNat)
    (hrequired : d.imports.required ⊆ d'.imports.required) : Tracks d x o :=
  ⟨h.outcome, Nat.le_trans (Nat.add_le_add_right hseen _) h.seen,
    List.Subset.trans hrequired h.required⟩

/-- **The bound adds up**: one walk after another. -/
theorem Logged.Tracks.bind {d : Draft} {x : Logged} {o : Outcome} {f : Draft → Logged}
    {g : Draft → Outcome} (h : Tracks d x o) (hfg : ∀ d', Tracks d' (f d') (g d')) :
    Tracks d (x.bind f) (o.bind g) := by
  obtain ⟨rfl, hseen, hrequired⟩ := h
  rw [Logged.bind]
  cases ho : x.outcome with
  | error e =>
    rw [ho] at hseen hrequired
    exact ⟨rfl, hseen, hrequired⟩
  | ok d' =>
    rw [ho] at hseen hrequired
    have hd' := hfg d'
    refine ⟨hd'.outcome, ?_, List.Subset.trans hrequired hd'.required⟩
    have hrest := hd'.seen
    rw [List.length_append]
    change d.firstNodeSeen.toNat + x.log.length ≤ d'.firstNodeSeen.toNat at hseen
    change _ ≤ (reached (g d')).firstNodeSeen.toNat
    omega

/-- **A control node that is read** raises the flag, and is one entry. -/
theorem Logged.Tracks.absorb {d : Draft} {x : Logged} {o : Outcome} (job : Job)
    (children : List Child) (hd : d.firstNodeSeen = false)
    (h : Tracks { d with parts := [], firstNodeSeen := true } x o) :
    Tracks d ⟨job.absorb d.parts x.outcome, children :: x.log⟩ (job.absorb d.parts o) := by
  obtain ⟨rfl, hseen, hrequired⟩ := h
  obtain ⟨hflag, hgrows⟩ := job.absorb_grows d.parts x.outcome
  refine ⟨rfl, ?_, List.Subset.trans hrequired hgrows⟩
  rw [hflag, hd, List.length_cons]
  change 1 + x.log.length ≤ _ at hseen
  change 0 + (x.log.length + 1) ≤ _
  omega

/-- A token in an expression drops nothing that is required. -/
theorem Draft.required_interpolate (job : Job) (t : Token) (slot : Slot) (d : Draft) :
    d.imports.required ⊆ (d.interpolate job t slot).imports.required := by
  intro x hx
  rw [Draft.interpolate]
  simp only
  split
  · exact (ImportSet.mem_required_require _ _ x).2 (.inr hx)
  · exact hx

mutual

/-- **The logged walk is the walk**, reads at most once, and only where the flag is down. -/
theorem Job.logVisit_tracks (job : Job) (enclosing : Option Mode) : ∀ (n : Node) (d : Draft),
    Logged.Tracks d (job.logVisit enclosing n d) (job.visit enclosing n d)
  | .program children, d => job.logNodes_tracks children d
  | .markup children, d =>
    (job.logMarkup_tracks children { d with firstNodeSeen := true }).after (Bool.toNat_le _)
      (List.Subset.refl _)
  | .control _ children, d => by
    rw [Job.logVisit, Job.visit]
    split
    · exact job.logControl_tracks (hasBracePair children) true children d
    · next hd =>
      exact (job.logControl_tracks (hasBracePair children) true children _).absorb job children
        (eq_false_of_ne_true hd)
  | .expression _ children, d =>
    (job.logExpression_tracks (Slot.first enclosing children) children
      { d with firstNodeSeen := true }).after (Bool.toNat_le _) (List.Subset.refl _)
termination_by structural n => n

theorem Job.logNodes_tracks (job : Job) : ∀ (ns : List Node) (d : Draft),
    Logged.Tracks d (job.logNodes ns d) (job.visitNodes ns d)
  | [], d => .nil d
  | n :: rest, d => (job.logVisit_tracks (some .program) n d).bind (job.logNodes_tracks rest)
termination_by structural ns => ns

theorem Job.logMarkup_tracks (job : Job) : ∀ (cs : List Child) (d : Draft),
    Logged.Tracks d (job.logMarkup cs d) (job.visitMarkup cs d)
  | [], d => .nil d
  | .token t :: rest, d =>
    (job.logMarkup_tracks rest (d.push .literal t.value)).after (Nat.le_refl _) (List.Subset.refl _)
  | .node n :: rest, d => (job.logVisit_tracks (some .markup) n d).bind (job.logMarkup_tracks rest)
termination_by structural cs => cs

theorem Job.logControl_tracks (job : Job) (braced atStart : Bool) : ∀ (cs : List Child) (d : Draft),
    Logged.Tracks d (job.logControl braced atStart cs d) (job.visitControl braced atStart cs d)
  | [], d => .nil d
  | .token t :: rest, d => by
    rw [Job.logControl, Job.visitControl]
    split
    · exact job.logControl_tracks braced false rest d
    · exact (job.logControl_tracks braced false rest (d.push .control t.value)).after
        (Nat.le_refl _) (List.Subset.refl _)
  | .node n :: rest, d => by
    rw [Job.logControl, Job.visitControl]
    split
    · exact job.logControl_tracks braced false rest d
    · exact (job.logVisit_tracks (some .control) n d).bind (job.logControl_tracks braced false rest)
termination_by structural cs => cs

theorem Job.logExpression_tracks (job : Job) (slot : Slot) : ∀ (cs : List Child) (d : Draft),
    Logged.Tracks d (job.logExpression slot cs d) (job.visitExpression slot cs d)
  | [], d => .nil d
  | .token t :: rest, d =>
    (job.logExpression_tracks slot.succ rest (d.interpolate job t slot)).after (Nat.le_refl _)
      (d.required_interpolate job t slot)
  | .node n :: rest, d =>
    (job.logVisit_tracks (some .expression) n d).bind (job.logExpression_tracks slot.succ rest)
termination_by structural cs => cs

end

/-! ## Runs -/

/-- One visit of a run. -/
structure Visit where
  enclosing : Option Mode
  node : Node

/-- The draft after a run, each visit going on from the draft that the one before it reached. -/
def Job.resume (job : Job) (d : Draft) (vs : List Visit) : Draft :=
  vs.foldl (fun d v => reached (job.visit v.enclosing v.node d)) d

/-- The control nodes that a run reads as declarations, by their children. -/
def Job.readings (job : Job) : Draft → List Visit → List (List Child)
  | _, [] => []
  | d, v :: vs => (job.logVisit v.enclosing v.node d).log
      ++ job.readings (reached (job.visit v.enclosing v.node d)) vs

/-- **The bound adds up along a run.** -/
theorem Job.resume_seen (job : Job) (d : Draft) (vs : List Visit) :
    d.firstNodeSeen.toNat + (job.readings d vs).length ≤ (job.resume d vs).firstNodeSeen.toNat := by
  induction vs generalizing d with
  | nil => exact Nat.le_refl _
  | cons v vs ih =>
    have hfirst := (job.logVisit_tracks v.enclosing v.node d).seen
    have hrest := ih (reached (job.visit v.enclosing v.node d))
    rw [Job.readings, List.length_append]
    show _ ≤ (job.resume (reached (job.visit v.enclosing v.node d)) vs).firstNodeSeen.toNat
    omega

theorem Job.resume_required (job : Job) (d : Draft) (vs : List Visit) :
    d.imports.required ⊆ (job.resume d vs).imports.required := by
  induction vs generalizing d with
  | nil => exact List.Subset.refl _
  | cons v vs ih =>
    exact List.Subset.trans (job.logVisit_tracks v.enclosing v.node d).required (ih _)

/-- Any point of a run is the start of the rest of it. -/
theorem Job.resume_take (job : Job) (d : Draft) (vs : List Visit) (k : Nat) :
    job.resume (job.resume d (vs.take k)) (vs.drop k) = job.resume d vs := by
  rw [Job.resume, Job.resume, Job.resume, ← List.foldl_append, List.take_append_drop]

/-- **At most one control node of a run is read as declarations.**  For a run of any visits on a
    fresh draft: the log, kept by a walk that ends as the visits do, has at most one entry; the flag
    stays up from the first point where it is up; what is required at some point is required at the
    end.  And from any draft with the flag up, every visit succeeds, leaves the flag, parameters and
    layout as they are, and all that is required stays so, with nothing new but the escape
    package. -/
theorem at_most_one_reading (job : Job) (vs : List Visit) :
    (∀ enclosing n d, (job.logVisit enclosing n d).outcome = job.visit enclosing n d)
    ∧ (job.readings (Draft.start job) vs).length ≤ 1
    ∧ (∀ k, (job.resume (Draft.start job) (vs.take k)).firstNodeSeen = true →
        (job.resume (Draft.start job) vs).firstNodeSeen = true)
    ∧ (∀ k, (job.resume (Draft.start job) (vs.take k)).imports.required
        ⊆ (job.resume (Draft.start job) vs).imports.required)
    ∧ (∀ enclosing n d, d.firstNodeSeen = true → ∃ d', job.visit enclosing n d = .ok d'
        ∧ d'.firstNodeSeen = true ∧ d'.params = d.params ∧ d'.layout = d.layout
        ∧ d.imports.required ⊆ d'.imports.required
        ∧ ∀ spec ∈ d'.imports.required,
            spec ∈ d.imports.required ∨ spec = job.options.namespacePath) := by
  refine ⟨fun enclosing n d => (job.logVisit_tracks enclosing n d).outcome, ?_, fun k hk => ?_,
    fun k => ?_, fun enclosing n d hd => ?_⟩
  · have hseen := job.resume_seen (Draft.start job) vs
    exact Nat.le_trans (Nat.le_add_left _ _) (Nat.le_trans hseen (Bool.toNat_le _))
  · have hseen := job.resume_seen (job.resume (Draft.start job) (vs.take k)) (vs.drop k)
    rw [hk, job.resume_take] at hseen
    exact Bool.toNat_eq_one.1 (Nat.le_antisymm (Bool.toNat_le _)
      (Nat.le_trans (Nat.le_add_right _ _) hseen))
  · have hrequired := job.resume_required (job.resume (Draft.start job) (vs.take k)) (vs.drop k)
    rwa [job.resume_take] at hrequired
  · have hrequired := Draft.mem_required_takeAll job d (n.leaves job d.params enclosing)
    refine ⟨_, visit_of_seen job enclosing n d hd, (Draft.takeAll_firstNodeSeen _ _ _).trans hd,
      Draft.takeAll_params _ _ _, Draft.takeAll_layout _ _ _,
      fun spec hspec => (hrequired spec).2 (.inr hspec), fun spec hspec => ?_⟩
    rcases (hrequired spec).1 hspec with ⟨rfl, _⟩ | hspec
    · exact .inr rfl
    · exact .inl hspec

-- the first node is refused, and the second is body all the same
example : ((Job.ofPath "a.gohtml".toList {}).readings
    (Draft.start (Job.ofPath "a.gohtml".toList {}))
    [⟨none, .control [] [.token ⟨.other [], "x := 1".toList⟩]⟩,
      ⟨none, .control [] [.token ⟨.other [], "var a int".toList⟩]⟩]).length = 1 := by
  decide +kernel

end GoTemplate
