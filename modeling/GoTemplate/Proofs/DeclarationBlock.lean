/-
  A look at a document and its compilation, on whether it starts with declarations.

  An inspection looks at ONE node, the first in the program that is the root.  A compilation reads
  the first node of the tree that is no program, however deep in programs it lies, and also if it
  is the root itself.  The inspection is never wrong when it says yes.  When it says no, it can
  miss a control node that is read all the same (`inner_program_hides_declarations`); the two
  agree exactly if the node that is read, if there is one, comes first in the root
  (`hasDeclarations_exact`).

  What a compilation reads is the log of its walk.  From a draft that has met no node, a walk over
  programs with nothing in them does nothing at all, and the first other node raises the flag, so
  nothing behind it can be read: `Logged.Meets` says both at once, and goes by induction on the
  tree.
-/
import GoTemplate.Proofs.SingleReading
import GoTemplate.Template.Reader
import GoTemplate.Template.Summary

namespace GoTemplate

/-! ## What a walk reads -/

/-- The control node that is read if these nodes are walked, by its children: the first of them, if
    it is a control node. -/
def firstReading : List Node → List (List Child)
  | .control _ children :: _ => [children]
  | _ => []

/-- The first node alone decides. -/
theorem firstReading_append {ns : List Node} (hne : ns ≠ []) (ms : List Node) :
    firstReading (ns ++ ms) = firstReading ns := by
  cases ns with
  | nil => exact absurd rfl hne
  | cons n ns => cases n <;> rfl

/-- A logged walk over nodes from a draft that has met none: without nodes it does nothing, and else
    it reads what the first of them gives to read, and has met a node. -/
structure Logged.Meets (d : Draft) (x : Logged) (ns : List Node) : Prop where
  nothing : ns = [] → x = ⟨.ok d, []⟩
  log : x.log = firstReading ns
  seen : ns ≠ [] → (reached x.outcome).firstNodeSeen = true

/-- One node that is no program. -/
theorem Logged.Meets.single {d : Draft} {x : Logged} {n : Node} (hlog : x.log = firstReading [n])
    (hseen : (reached x.outcome).firstNodeSeen = true) : Meets d x [n] :=
  ⟨nofun, hlog, fun _ => hseen⟩

/-- A walk from a draft that has met a node reads nothing and has met a node. -/
theorem Logged.Tracks.of_seen {d : Draft} {x : Logged} {o : Outcome} (h : Tracks d x o)
    (hd : d.firstNodeSeen = true) : x.log = [] ∧ (reached x.outcome).firstNodeSeen = true := by
  have hbound := h.seen
  rw [← h.outcome, hd] at hbound
  have hflag := Bool.toNat_le (reached x.outcome).firstNodeSeen
  constructor
  · apply List.eq_nil_of_length_eq_zero
    change 1 + x.log.length ≤ _ at hbound
    omega
  · apply Bool.toNat_eq_one.1
    change 1 + x.log.length ≤ _ at hbound
    omega

/-- **Whatever comes first decides**: one walk after another. -/
theorem Logged.Meets.bind {d : Draft} {x : Logged} {f : Draft → Logged} {g : Draft → Outcome}
    {ns ms : List Node} (h : Meets d x ns) (hf : Meets d (f d) ms)
    (hfg : ∀ d', Tracks d' (f d') (g d')) : Meets d (x.bind f) (ns ++ ms) := by
  by_cases hns : ns = []
  · subst hns
    rw [h.nothing rfl]
    exact hf
  · have hlog : (x.bind f).log = x.log
        ∧ (reached (x.bind f).outcome).firstNodeSeen = true := by
      have hseen := h.seen hns
      rw [Logged.bind]
      cases ho : x.outcome with
      | error e =>
        rw [ho] at hseen
        exact ⟨rfl, hseen⟩
      | ok d' =>
        rw [ho] at hseen
        obtain ⟨hnil, hseen'⟩ := (hfg d').of_seen hseen
        refine ⟨?_, hseen'⟩
        show x.log ++ (f d').log = x.log
        rw [hnil, List.append_nil]
    refine ⟨fun hnil => absurd (List.append_eq_nil_iff.1 hnil).1 hns, ?_, fun _ => hlog.2⟩
    rw [hlog.1, h.log, firstReading_append hns]

mutual

theorem Job.logVisit_meets (job : Job) (enclosing : Option Mode) : ∀ (n : Node) (d : Draft),
    d.firstNodeSeen = false → Logged.Meets d (job.logVisit enclosing n d) n.unfold
  | .program children, d, hd => job.logNodes_meets children d hd
  | .markup children, d, _ =>
    have h := (job.logMarkup_tracks children { d with firstNodeSeen := true }).of_seen rfl
    .single h.1 h.2
  | .control tagName children, d, hd => by
    have h := (job.logControl_tracks (hasBracePair children) true children
      { d with parts := [], firstNodeSeen := true }).of_seen rfl
    rw [Job.logVisit, if_neg (by rw [hd]; exact Bool.false_ne_true)]
    refine .single ?_ ?_
    · exact congrArg (children :: ·) h.1
    · exact (job.absorb_grows d.parts _).1.trans h.2
  | .expression _ children, d, _ =>
    have h := (job.logExpression_tracks (Slot.first enclosing children) children
      { d with firstNodeSeen := true }).of_seen rfl
    .single h.1 h.2
termination_by structural n => n

theorem Job.logNodes_meets (job : Job) : ∀ (ns : List Node) (d : Draft),
    d.firstNodeSeen = false → Logged.Meets d (job.logNodes ns d) (unfoldNodes ns)
  | [], _, _ => ⟨fun _ => rfl, rfl, fun h => absurd rfl h⟩
  | n :: rest, d, hd =>
    (job.logVisit_meets (some .program) n d hd).bind (job.logNodes_meets rest d hd)
      (job.logNodes_tracks rest)
termination_by structural ns => ns

end

/-! ## Inspection and compilation -/

/-- What is read is the diverted node, if there is one. -/
theorem firstReading_unfold_ne_nil (root : Node) :
    firstReading root.unfold ≠ [] ↔ ∃ n, root.diverted? = some n := by
  rw [Node.diverted?]
  cases root.unfold with
  | nil => simp [firstReading]
  | cons n ns => cases n <;> simp [firstReading]

/-- An inspection says yes for a program that begins with a control node. -/
theorem hasDeclarations_iff (root : Node) : root.summary.hasDeclarations = true
    ↔ ∃ tagName children rest, root = .program (.control tagName children :: rest) := by
  cases root with
  | program ns =>
    cases ns with
    | nil => simp [Node.summary, Summary.hasDeclarations]
    | cons n ns => cases n <;> simp [Node.summary, Summary.hasDeclarations, Node.mode]
  | markup cs => simp [Node.summary, Summary.hasDeclarations]
  | control tagName cs => simp [Node.summary, Summary.hasDeclarations]
  | expression tagName cs => simp [Node.summary, Summary.hasDeclarations]

theorem diverted_of_first (tagName : Text) (children : List Child) (rest : List Node) :
    (Node.program (.control tagName children :: rest)).diverted?
      = some (.control tagName children) := rfl

/-- **When an inspection and a compilation agree.**  The walk of a compilation is logged.  It reads
    a control node as declarations exactly if the tree has a diverted node.  An inspection that says
    yes is right; and it says what the walk does exactly if the diverted node, where there is one,
    comes first in the program that is the root. -/
theorem hasDeclarations_exact (job : Job) (root : Node) :
    let walk := job.logVisit none root (Draft.start job)
    walk.outcome = job.visit none root (Draft.start job)
    ∧ (walk.log ≠ [] ↔ ∃ n, root.diverted? = some n)
    ∧ (root.summary.hasDeclarations = true → walk.log ≠ [])
    ∧ ((root.summary.hasDeclarations = true ↔ walk.log ≠ [])
      ↔ ∀ n, root.diverted? = some n → ∃ rest, root = .program (n :: rest)) := by
  intro walk
  have houtcome := (job.logVisit_tracks none root (Draft.start job)).outcome
  have hreads : walk.log ≠ [] ↔ ∃ n, root.diverted? = some n := by
    rw [(job.logVisit_meets none root (Draft.start job) rfl).log]
    exact firstReading_unfold_ne_nil root
  have hright : root.summary.hasDeclarations = true → walk.log ≠ [] := by
    intro h
    obtain ⟨tagName, children, rest, rfl⟩ := (hasDeclarations_iff root).1 h
    exact hreads.2 ⟨_, diverted_of_first tagName children rest⟩
  refine ⟨houtcome, hreads, hright, ?_⟩
  constructor
  · intro hagree n hn
    obtain ⟨tagName, children, rest, rfl⟩ :=
      (hasDeclarations_iff root).1 (hagree.2 (hreads.2 ⟨n, hn⟩))
    rw [diverted_of_first] at hn
    cases hn
    exact ⟨rest, rfl⟩
  · intro hfirst
    refine ⟨hright, fun h => ?_⟩
    obtain ⟨n, hn⟩ := hreads.1 h
    obtain ⟨rest, rfl⟩ := hfirst n hn
    have hcontrol := (Node.unfold_of_diverted hn).1
    cases n with
    | control tagName children => exact (hasDeclarations_iff _).2 ⟨tagName, children, rest, rfl⟩
    | program | markup | expression => cases hcontrol

/-- A document whose declarations lie in a program inside the program. -/
def innerProgramText : Text :=
  ("\x7b\"path\":\"a.gohtml\",\"root\":\x7b\"mode\":\"program\",\"children\":["
    ++ "\x7b\"mode\":\"program\",\"children\":[\x7b\"mode\":\"control\",\"children\":[\x7b\"type\":\"CONTENT\","
    ++ "\"text\":\"var a int\"\x7d]\x7d]\x7d]\x7d\x7d").toList

/-- A program inside the program hides the declarations from an inspection, and one control node is
    read all the same. -/
theorem inner_program_hides_declarations :
    (Document.ofText innerProgramText).map (fun doc =>
      let job := Job.ofPath doc.path {}
      (doc.root.summary.hasDeclarations, (job.logVisit none doc.root (Draft.start job)).log.length))
      = .ok (false, 1) := by
  decide +kernel

end GoTemplate
