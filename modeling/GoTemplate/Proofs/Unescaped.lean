/-
  Turning escaping off changes nothing but the wrappers and one import.

  Compile one template with escaping and without.  If every expression that has a wrapper is one
  write statement on one line, both compilations fail with the same error, or both succeed and the
  outputs correspond line by line: a line is the same in both, or ends with write statements of
  which the first has its argument in a wrapper (`compile_unescaped`).  So regions open and close on
  the same lines, and sections have the same names.

  1. Leaves: those of an expression with a wrapper make up one write statement in each run
     (`joined_expression`), and all others are the same in both (`Node.leaves_wrapped`).  An
     expression inside another has no wrapper, nor has one that holds markup or control nodes.
  2. Text: leaves of one kind are joined, so a wrapper ends up in the middle of a longer run of
     expression text (`TextWrapped`).
  3. Lines: a write statement ends its line, so at most one wrapper stands on a line, behind text
     that is the same in both runs (`TextWrapped.lines`).
  4. Imports: the order of requiring does not matter, so neither does the moment at which the escape
     package was required.
-/
import GoTemplate.Proofs.Frames

namespace GoTemplate

/-! ## Trees -/

mutual

/-- Whether a tree holds an expression. -/
def Node.holdsExpression : Node → Bool
  | .program children => nodesHoldExpression children
  | .markup children => childrenHoldExpression children
  | .control _ children => childrenHoldExpression children
  | .expression _ _ => true
termination_by structural n => n

/-- Whether one of the nodes of a program does. -/
def nodesHoldExpression : List Node → Bool
  | [] => false
  | n :: rest => n.holdsExpression || nodesHoldExpression rest
termination_by structural ns => ns

/-- Whether one of the nodes among some children does. -/
def childrenHoldExpression : List Child → Bool
  | [] => false
  | .token _ :: rest => childrenHoldExpression rest
  | .node n :: rest => n.holdsExpression || childrenHoldExpression rest
termination_by structural cs => cs

end

/-- Children that make one line in a frame: a token at each end, and no line feed in any value. -/
def framesOneLine (cs : List Child) : Bool :=
  (cs.head?.bind Child.token?).isSome && endsInToken cs
    && (childrenValues cs).all (!·.contains '\n')

mutual

/-- Every expression with a wrapper makes one line in its frame.  A wrapper is for an expression
    with children, not directly inside another (`nested`), that holds no other nodes. -/
def Node.isFramed (nested : Bool) : Node → Bool
  | .program children => nodesFramed children
  | .markup children => childrenFramed false children
  | .control _ children => childrenFramed false children
  | .expression _ children =>
    (nested || anyNonExpression children || children.isEmpty || framesOneLine children)
      && childrenFramed true children
termination_by structural n => n

/-- The same for all nodes of a program. -/
def nodesFramed : List Node → Bool
  | [] => true
  | n :: rest => n.isFramed false && nodesFramed rest
termination_by structural ns => ns

/-- The same for all nodes among some children; `nested` if the children are an expression's. -/
def childrenFramed (nested : Bool) : List Child → Bool
  | [] => true
  | .token _ :: rest => childrenFramed nested rest
  | .node n :: rest => n.isFramed nested && childrenFramed nested rest
termination_by structural cs => cs

end

theorem nodesFramed_append (ns ms : List Node) :
    nodesFramed (ns ++ ms) = (nodesFramed ns && nodesFramed ms) := by
  induction ns with
  | nil => rfl
  | cons n ns ih => rw [List.cons_append, nodesFramed, nodesFramed, ih, Bool.and_assoc]

mutual

theorem Node.nodesFramed_unfold : ∀ {n : Node}, n.isFramed false = true →
    nodesFramed n.unfold = true
  | .program _, h => nodesFramed_unfoldNodes h
  | .markup _, h => Bool.and_eq_true_iff.2 ⟨h, rfl⟩
  | .control _ _, h => Bool.and_eq_true_iff.2 ⟨h, rfl⟩
  | .expression _ _, h => Bool.and_eq_true_iff.2 ⟨h, rfl⟩

theorem nodesFramed_unfoldNodes : ∀ {ns : List Node}, nodesFramed ns = true →
    nodesFramed (unfoldNodes ns) = true
  | [], _ => rfl
  | n :: rest, h => by
    obtain ⟨hn, hrest⟩ := Bool.and_eq_true_iff.1 h
    rw [unfoldNodes, nodesFramed_append, n.nodesFramed_unfold hn, nodesFramed_unfoldNodes hrest]
    rfl

end

theorem Node.nodesFramed_body {root : Node} (h : root.isFramed false = true) :
    nodesFramed root.body = true := by
  have hu := root.nodesFramed_unfold h
  rw [Node.body]
  split
  · next tagName children rest hr =>
    rw [hr] at hu
    exact (Bool.and_eq_true_iff.1 hu).2
  · exact hu

/-! ## Two jobs -/

/-- A job with escaping turned on or off. -/
def Job.withEscape (job : Job) (escape : Bool) : Job :=
  { job with options := { job.options with escape } }

section

variable (job : Job) (params : List Param)

mutual

/-- A tree without expressions has the same leaves in both runs. -/
theorem Node.leaves_of_no_expression : ∀ (n : Node), n.holdsExpression = false →
    ∀ enclosing : Option Mode, n.leaves (job.withEscape true) params enclosing
      = n.leaves (job.withEscape false) params enclosing
  | .program ns, h, _ => nodesLeaves_of_no_expression ns h
  | .markup cs, h, _ => markupLeaves_of_no_expression cs h
  | .control _ cs, h, _ => controlLeaves_of_no_expression cs h _ true
  | .expression _ _, h, _ => nomatch h
termination_by structural n => n

theorem nodesLeaves_of_no_expression : ∀ (ns : List Node), nodesHoldExpression ns = false →
    nodesLeaves (job.withEscape true) params ns = nodesLeaves (job.withEscape false) params ns
  | [], _ => rfl
  | n :: rest, h => by
    obtain ⟨hn, hrest⟩ := Bool.or_eq_false_iff.1 h
    rw [nodesLeaves, nodesLeaves, n.leaves_of_no_expression hn,
      nodesLeaves_of_no_expression rest hrest]
termination_by structural ns => ns

theorem markupLeaves_of_no_expression : ∀ (cs : List Child), childrenHoldExpression cs = false →
    markupLeaves (job.withEscape true) params cs = markupLeaves (job.withEscape false) params cs
  | [], _ => rfl
  | .token _ :: rest, h => congrArg (_ :: ·) (markupLeaves_of_no_expression rest h)
  | .node n :: rest, h => by
    obtain ⟨hn, hrest⟩ := Bool.or_eq_false_iff.1 h
    rw [markupLeaves, markupLeaves, n.leaves_of_no_expression hn,
      markupLeaves_of_no_expression rest hrest]
termination_by structural cs => cs

theorem controlLeaves_of_no_expression : ∀ (cs : List Child), childrenHoldExpression cs = false →
    ∀ braced atStart : Bool, controlLeaves (job.withEscape true) params braced atStart cs
      = controlLeaves (job.withEscape false) params braced atStart cs
  | [], _, _, _ => rfl
  | .token _ :: rest, h, braced, atStart => by
    rw [controlLeaves, controlLeaves, controlLeaves_of_no_expression rest h braced false]
  | .node n :: rest, h, braced, atStart => by
    obtain ⟨hn, hrest⟩ := Bool.or_eq_false_iff.1 h
    rw [controlLeaves, controlLeaves, n.leaves_of_no_expression hn,
      controlLeaves_of_no_expression rest hrest braced false]
termination_by structural cs => cs

end

end

/-! ## Wrapped leaves -/

/-- What opens a wrapper: the escape call or a parenthesis. -/
inductive Opener (call : Text) : Text → Prop
  | escape : Opener call call
  | plain : Opener call ['(']

/-- Leaves of two runs: the same, or those of an expression that is one write statement on one line,
    in the first run with its argument in a wrapper. -/
inductive LeavesWrapped (call : Text) : List Leaf → List Leaf → Prop
  | nil : LeavesWrapped call [] []
  | same (l : Leaf) {ls ls' : List Leaf} : LeavesWrapped call ls ls' →
      LeavesWrapped call (l :: ls) (l :: ls')
  | framed {es es' ls ls' : List Leaf} {opener arg : Text} (hopener : Opener call opener)
      (harg : '\n' ∉ arg) (hne : es ≠ []) (hne' : es' ≠ [])
      (hkind : ∀ l ∈ es, l.kind = .expression) (hkind' : ∀ l ∈ es', l.kind = .expression)
      (htext : joined es = writeStatement (opener ++ arg ++ [')']))
      (htext' : joined es' = writeStatement arg) : LeavesWrapped call ls ls' →
      LeavesWrapped call (es ++ ls) (es' ++ ls')

theorem LeavesWrapped.append {call : Text} {ls ls' ms ms' : List Leaf}
    (h : LeavesWrapped call ls ls') (h' : LeavesWrapped call ms ms') :
    LeavesWrapped call (ls ++ ms) (ls' ++ ms') := by
  induction h with
  | nil => exact h'
  | same l _ ih => exact .same l ih
  | framed hopener harg hne hne' hkind hkind' htext htext' _ ih =>
    rw [List.append_assoc, List.append_assoc]
    exact .framed hopener harg hne hne' hkind hkind' htext htext' ih

section

variable (job : Job) (params : List Param)

/-- A token of an expression without a wrapper is the same in both runs. -/
theorem Slot.leaf_of_not_wrapped {s : Slot} (hs : (s.nested || !s.homogeneous) = true) (t : Token) :
    s.leaf (job.withEscape true) params t = s.leaf (job.withEscape false) params t := by
  have hwrapped : ∀ o : Options, s.isWrapped o = false := by
    intro o
    rcases Bool.or_eq_true_iff.1 hs with h | h
    · simp [Slot.isWrapped, h]
    · simp [Slot.isWrapped, Bool.not_eq_true' _ ▸ h]
  simp only [Slot.leaf, Slot.opening, Slot.closing, Slot.escapes, hwrapped, Bool.false_and,
    if_neg Bool.false_ne_true]

/-- **An expression with a wrapper is one write statement in both runs.** -/
theorem leavesWrapped_framed {enclosing : Option Mode} (he : enclosing ≠ some .expression)
    (tagName : Text) {cs : List Child} (hcs : anyNonExpression cs = false)
    (hline : framesOneLine cs = true) :
    LeavesWrapped job.options.escapeCall
      ((Node.expression tagName cs).leaves (job.withEscape true) params enclosing)
      ((Node.expression tagName cs).leaves (job.withEscape false) params enclosing) := by
  simp only [framesOneLine, Bool.and_eq_true, List.all_eq_true] at hline
  obtain ⟨⟨hhead, hend⟩, hvalues⟩ := hline
  have harg : '\n' ∉ withoutRaw (childrenValues cs) := by
    apply not_mem_withoutRaw
    intro v hv hc
    simpa [hc] using hvalues v hv
  match cs with
  | [] => nomatch hhead
  | .node _ :: _ => nomatch hhead
  | .token t :: rest =>
    have htext := fun b => joined_expression (job.withEscape b) params he tagName t rest hcs hend
    have hkind := fun b => Node.kind_of_mem_leaves (job.withEscape b) params enclosing
      (.expression tagName (.token t :: rest)) hcs
    have hopener : Opener job.options.escapeCall ((job.withEscape true).opener params t.value) := by
      rw [Job.opener, if_pos (show (job.withEscape true).options.escape = true from rfl)]
      split
      · exact .escape
      · exact .plain
    have hbare : joined ((Node.expression tagName (.token t :: rest)).leaves (job.withEscape false)
          params enclosing)
        = writeStatement (withoutRaw (childrenValues (.token t :: rest))) := by
      rw [htext false]
      show writeStatement ([] ++ _ ++ []) = _
      rw [List.nil_append, List.append_nil]
    have hframed := LeavesWrapped.framed hopener harg (List.cons_ne_nil _ _) (List.cons_ne_nil _ _)
      (hkind true) (hkind false) (htext true) hbare .nil
    rwa [List.append_nil, List.append_nil] at hframed

mutual

/-- **The leaves of two runs are the same but for wrappers.** -/
theorem Node.leaves_wrapped : ∀ (n : Node) (enclosing : Option Mode),
    n.isFramed (enclosing == some .expression) = true → LeavesWrapped job.options.escapeCall
      (n.leaves (job.withEscape true) params enclosing)
      (n.leaves (job.withEscape false) params enclosing)
  | .program ns, _, h => nodesLeaves_wrapped ns h
  | .markup cs, _, h => markupLeaves_wrapped cs h
  | .control _ cs, _, h => controlLeaves_wrapped cs h _ true
  | .expression tagName cs, enclosing, h => by
    obtain ⟨hframe, hcs⟩ := Bool.and_eq_true_iff.1 h
    by_cases hslot : ((Slot.first enclosing cs).nested || !(Slot.first enclosing cs).homogeneous)
        = true
    · exact expressionLeaves_wrapped cs hcs _ hslot
    · -- neither nested nor with other nodes: a wrapper, or nothing at all
      have hslot' : (enclosing == some .expression) = false ∧ anyNonExpression cs = false := by
        simpa [Slot.first] using hslot
      obtain ⟨hnested, hhom⟩ := hslot'
      have hframe' : cs.isEmpty = true ∨ framesOneLine cs = true := by
        simpa [hnested, hhom] using hframe
      rcases hframe' with hnil | hline
      · rw [List.isEmpty_iff.1 hnil]
        exact .nil
      · exact leavesWrapped_framed job params (by simpa using hnested) tagName hhom hline
termination_by structural n => n

theorem nodesLeaves_wrapped : ∀ (ns : List Node), nodesFramed ns = true →
    LeavesWrapped job.options.escapeCall (nodesLeaves (job.withEscape true) params ns)
      (nodesLeaves (job.withEscape false) params ns)
  | [], _ => .nil
  | n :: rest, h => by
    obtain ⟨hn, hrest⟩ := Bool.and_eq_true_iff.1 h
    exact (n.leaves_wrapped (some .program) hn).append (nodesLeaves_wrapped rest hrest)
termination_by structural ns => ns

theorem markupLeaves_wrapped : ∀ (cs : List Child), childrenFramed false cs = true →
    LeavesWrapped job.options.escapeCall (markupLeaves (job.withEscape true) params cs)
      (markupLeaves (job.withEscape false) params cs)
  | [], _ => .nil
  | .token _ :: rest, h => .same _ (markupLeaves_wrapped rest h)
  | .node n :: rest, h => by
    obtain ⟨hn, hrest⟩ := Bool.and_eq_true_iff.1 h
    exact (n.leaves_wrapped (some .markup) hn).append (markupLeaves_wrapped rest hrest)
termination_by structural cs => cs

theorem controlLeaves_wrapped : ∀ (cs : List Child), childrenFramed false cs = true →
    ∀ braced atStart : Bool, LeavesWrapped job.options.escapeCall
      (controlLeaves (job.withEscape true) params braced atStart cs)
      (controlLeaves (job.withEscape false) params braced atStart cs)
  | [], _, _, _ => .nil
  | .token _ :: rest, h, braced, atStart => by
    rw [controlLeaves, controlLeaves]
    split
    · exact controlLeaves_wrapped rest h braced false
    · exact .same _ (controlLeaves_wrapped rest h braced false)
  | .node n :: rest, h, braced, atStart => by
    obtain ⟨hn, hrest⟩ := Bool.and_eq_true_iff.1 h
    rw [controlLeaves, controlLeaves]
    split
    · exact controlLeaves_wrapped rest hrest braced false
    · exact (n.leaves_wrapped (some .control) hn).append
        (controlLeaves_wrapped rest hrest braced false)
termination_by structural cs => cs

theorem expressionLeaves_wrapped : ∀ (cs : List Child), childrenFramed true cs = true →
    ∀ slot : Slot, (slot.nested || !slot.homogeneous) = true →
    LeavesWrapped job.options.escapeCall (expressionLeaves (job.withEscape true) params slot cs)
      (expressionLeaves (job.withEscape false) params slot cs)
  | [], _, _, _ => .nil
  | .token t :: rest, h, slot, hslot => by
    rw [expressionLeaves, expressionLeaves, Slot.leaf_of_not_wrapped job params hslot]
    exact .same _ (expressionLeaves_wrapped rest h slot.succ hslot)
  | .node n :: rest, h, slot, hslot => by
    obtain ⟨hn, hrest⟩ := Bool.and_eq_true_iff.1 h
    exact (n.leaves_wrapped (some .expression) hn).append
      (expressionLeaves_wrapped rest hrest slot.succ hslot)
termination_by structural cs => cs

end

end

/-! ## Wrapped text -/

/-- Two texts that are the same but for write statements on one line, in the first text with their
    argument in a wrapper. -/
inductive TextWrapped (call : Text) : Text → Text → Prop
  | nil : TextWrapped call [] []
  | char (c : Char) {s s' : Text} : TextWrapped call s s' → TextWrapped call (c :: s) (c :: s')
  | write {opener arg s s' : Text} (hopener : Opener call opener) (harg : '\n' ∉ arg) :
      TextWrapped call s s' →
      TextWrapped call (writeStatement (opener ++ arg ++ [')']) ++ s) (writeStatement arg ++ s')

theorem TextWrapped.append_left {call s s' : Text} (p : Text) (h : TextWrapped call s s') :
    TextWrapped call (p ++ s) (p ++ s') := by
  induction p with
  | nil => exact h
  | cons c p ih => exact .char c ih

theorem TextWrapped.append {call s s' t t' : Text} (hs : TextWrapped call s s')
    (ht : TextWrapped call t t') : TextWrapped call (s ++ t) (s' ++ t') := by
  induction hs with
  | nil => exact ht
  | char c _ ih => exact .char c ih
  | write hopener harg _ ih =>
    simpa only [List.append_assoc] using TextWrapped.write hopener harg ih

/-- Two fragments that are the same, or expressions with wrapped text. -/
inductive Fragment.Wrapped (call : Text) : Fragment → Fragment → Prop
  | same (f : Fragment) : Fragment.Wrapped call f f
  | expression {v v' : Text} : TextWrapped call v v' →
      Fragment.Wrapped call ⟨.expression, v⟩ ⟨.expression, v'⟩

theorem Fragment.Wrapped.kind_eq {call : Text} {f f' : Fragment} (h : f.Wrapped call f') :
    f.kind = f'.kind := by
  cases h <;> rfl

theorem Buffer.cons_wrapped {call : Text} {f f' : Fragment} (hf : f.Wrapped call f') :
    ∀ {b b' : Buffer}, List.Forall₂ (Fragment.Wrapped call) b b' →
    List.Forall₂ (Fragment.Wrapped call) (Buffer.cons f b) (Buffer.cons f' b')
  | _, _, .nil => .cons hf .nil
  | g :: b, g' :: b', .cons hg hb => by
    have hself : ∀ t : Text, TextWrapped call t t := fun t => by
      simpa using TextWrapped.nil.append_left t
    rw [Buffer.cons, Buffer.cons, hf.kind_eq, hg.kind_eq]
    split
    · next hk =>
      refine .cons ?_ hb
      -- a joined run is the same in both unless some piece of it was wrapped
      cases hf with
      | same =>
        cases hg with
        | same => exact .same _
        | expression hv => rw [hk]; exact .expression ((hself _).append hv)
      | expression hv =>
        cases hg with
        | same => exact .expression (hv.append (hself _))
        | expression hw => exact .expression (hv.append hw)
    · exact .cons hf (.cons hg hb)

/-- Pieces of one kind in front are joined to one. -/
theorem Buffer.cons_cons (k : FragmentKind) (v w : Text) (b : Buffer) :
    Buffer.cons ⟨k, v⟩ (Buffer.cons ⟨k, w⟩ b) = Buffer.cons ⟨k, v ++ w⟩ b := by
  cases b with
  | nil => simp [Buffer.cons]
  | cons g b => by_cases h : k = g.kind <;> simp [Buffer.cons, h]

/-- A stretch of expressions is pushed as one. -/
theorem runs_expressions {es : List Leaf} (hne : es ≠ []) (hkind : ∀ l ∈ es, l.kind = .expression)
    (ls : List Leaf) : runs ((es ++ ls).map Leaf.toFragment)
      = Buffer.cons ⟨.expression, joined es⟩ (runs (ls.map Leaf.toFragment)) := by
  induction es with
  | nil => exact absurd rfl hne
  | cons l es ih =>
    have hl : l.toFragment = ⟨.expression, l.value⟩ := by rw [← hkind l List.mem_cons_self]
    show Buffer.cons l.toFragment (runs ((es ++ ls).map Leaf.toFragment)) = _
    rw [hl]
    cases es with
    | nil => simp [joined]
    | cons l' es =>
      rw [ih (List.cons_ne_nil _ _) fun m hm => hkind m (List.mem_cons_of_mem l hm),
        Buffer.cons_cons]
      rfl

theorem LeavesWrapped.runs {call : Text} {ls ls' : List Leaf} (h : LeavesWrapped call ls ls') :
    List.Forall₂ (Fragment.Wrapped call) (runs (ls.map Leaf.toFragment))
      (runs (ls'.map Leaf.toFragment)) := by
  induction h with
  | nil => exact .nil
  | same l _ ih => exact Buffer.cons_wrapped (.same _) ih
  | framed hopener harg hne hne' hkind hkind' htext htext' _ ih =>
    rw [runs_expressions hne hkind, runs_expressions hne' hkind', htext, htext']
    have hwrite := TextWrapped.write hopener harg .nil
    rw [List.append_nil, List.append_nil] at hwrite
    exact Buffer.cons_wrapped (.expression hwrite) ih

theorem LeavesWrapped.leavesText {call : Text} {ls ls' : List Leaf}
    (h : LeavesWrapped call ls ls') : TextWrapped call (leavesText ls) (leavesText ls') := by
  rw [GoTemplate.leavesText, GoTemplate.leavesText]
  have hruns := h.runs
  generalize GoTemplate.runs (ls.map Leaf.toFragment) = b at hruns
  generalize GoTemplate.runs (ls'.map Leaf.toFragment) = b' at hruns
  induction hruns with
  | nil => exact .nil
  | @cons f f' b b' hf _ ih =>
    show TextWrapped call (f.render ++ Buffer.flatten b) (f'.render ++ Buffer.flatten b')
    cases hf with
    | same => exact ih.append_left f.render
    | expression hv => exact hv.append ih

/-! ## Wrapped lines -/

/-- Two lines that are the same, or end with write statements behind the same text, in the first
    line with the argument in a wrapper. -/
inductive LineWrapped (call : Text) : Text → Text → Prop
  | same (l : Text) : LineWrapped call l l
  | write (p : Text) {opener : Text} (hopener : Opener call opener) (arg : Text) :
      LineWrapped call (p ++ writeStatement (opener ++ arg ++ [')'])) (p ++ writeStatement arg)

theorem LineWrapped.indistinct {call l l' : Text} (h : LineWrapped call l l') :
    Indistinct l l' := by
  cases h with
  | same => exact ⟨fun _ => rfl, fun _ => rfl⟩
  | write p _ arg => exact indistinct_writeStatement p _ arg

/-- **Wrapped texts have pairwise wrapped lines.**  `p` is what already stands on the first line. -/
theorem TextWrapped.lines {call s s' : Text} (hcall : '\n' ∉ call) (h : TextWrapped call s s')
    {p : Text} (hp : '\n' ∉ p) :
    List.Forall₂ (LineWrapped call) (lineSpans (p ++ s)) (lineSpans (p ++ s')) := by
  induction h generalizing p with
  | nil => exact List.forall₂_same.2 fun l _ => .same l
  | @char c s s' _ ih =>
    by_cases hc : c = '\n'
    · subst hc
      rw [lineSpans_append_newline hp, lineSpans_append_newline hp]
      exact .cons (.same _) (ih (p := []) List.not_mem_nil)
    · have hrest := ih (p := p ++ [c]) (by simp [hp, Ne.symm hc])
      rwa [List.append_assoc, List.append_assoc] at hrest
  | @write opener arg _ _ hopener harg _ ih =>
    have hwrapped : '\n' ∉ opener ++ arg ++ [')'] := by
      have hopen : '\n' ∉ opener := by
        cases hopener with
        | escape => exact hcall
        | plain => decide
      simp [hopen, harg]
    rw [lineSpans_writeStatement hp hwrapped, lineSpans_writeStatement hp harg]
    exact .cons (.write p hopener arg) (ih (p := []) List.not_mem_nil)

/-! ## Outputs -/

/-- Two sections of one name whose lines are the same but for wrappers. -/
def Section.Wrapped (call : Text) (s s' : Section) : Prop :=
  s.name = s'.name ∧ List.Forall₂ (LineWrapped call) (lineSpans s.body) (lineSpans s'.body)

/-- Two outputs that are the same but for wrappers, and for the import of `namespacePath` in the
    first. -/
structure Output.Wrapped (call namespacePath : Text) (o o' : Output) : Prop where
  package : o.file.package = o'.file.package
  function : o.file.function = o'.file.function
  params : o.file.params = o'.file.params
  layout : o.layout = o'.layout
  sections : List.Forall₂ (Section.Wrapped call) o.file.sections o'.file.sections
  body : List.Forall₂ (LineWrapped call) (lineSpans o.file.body) (lineSpans o'.file.body)
  imports : o.file.imports.filter (· != namespacePath) = o'.file.imports.filter (· != namespacePath)
  kept : namespacePath ∈ o'.file.imports → namespacePath ∈ o.file.imports

/-- Without escaping no leaf opens a call. -/
theorem escapes_of_unescaped (job : Job) (params : List Param) (ns : List Node) :
    (nodesLeaves (job.withEscape false) params ns).any Leaf.escapes = false := by
  rw [List.any_eq_false]
  intro l hl
  cases nodesLeaves_added (job.withEscape false) params ns l hl with
  | markup t => exact Bool.false_ne_true
  | control t => exact Bool.false_ne_true
  | expression s t => simp [Slot.leaf, Slot.escapes, Slot.isWrapped, Job.withEscape]

/-- The imports of two outputs with the same declarations, one with wrappers and one without. -/
theorem Draft.imports_of_wrapped (job : Job) (d : Draft) (ls : List Leaf) {ls' : List Leaf}
    (hls' : ls'.any Leaf.escapes = false) :
    let imports := ((d.takeAll job ls).imports.require bytesImport).required
    let imports' := ((d.takeAll job ls').imports.require bytesImport).required
    imports.filter (· != job.options.namespacePath)
        = imports'.filter (· != job.options.namespacePath)
      ∧ (job.options.namespacePath ∈ imports' → job.options.namespacePath ∈ imports) := by
  rw [Draft.takeAll_imports, Draft.takeAll_imports, hls', if_neg Bool.false_ne_true]
  split
  · rw [ImportSet.require_comm]
    exact ⟨ImportSet.filter_required_require _ _,
      fun _ => (ImportSet.mem_required_require _ _ _).2 (.inl rfl)⟩
  · exact ⟨rfl, id⟩

/-- Sections made from related lines, where `text` and `text'` are what the lines are from. -/
theorem sections_wrapped {call text text' : Text} {ss ss' : List (Text × List Text)}
    (h : List.Forall₂ (fun s s' => s.1 = s'.1 ∧ List.Forall₂ (LineWrapped call) s.2 s'.2) ss ss')
    (hss : ∀ s ∈ ss, s.2.Sublist (lineSpans text))
    (hss' : ∀ s ∈ ss', s.2.Sublist (lineSpans text')) :
    List.Forall₂ (Section.Wrapped call) (ss.map fun s => ⟨s.1, s.2.flatten⟩)
      (ss'.map fun s => ⟨s.1, s.2.flatten⟩) := by
  induction h with
  | nil => exact .nil
  | cons hs _ ih =>
    obtain ⟨hsub, hss⟩ := List.forall_mem_cons.1 hss
    obtain ⟨hsub', hss'⟩ := List.forall_mem_cons.1 hss'
    refine .cons ⟨hs.1, ?_⟩ (ih hss hss')
    rw [lineSpans_flatten_of_sublist hsub, lineSpans_flatten_of_sublist hsub']
    exact hs.2

/-- What the passes make of two texts with related lines, put into two outputs. -/
theorem Job.output_wrapped (job : Job) (d : Draft) {ls ls' : List Leaf}
    (hls' : ls'.any Leaf.escapes = false) {text text' : Text}
    {lifted lifted' : List Text × List (Text × List Text)}
    (h : regionLines job.template (lineSpans text) = .ok lifted)
    (h' : regionLines job.template (lineSpans text') = .ok lifted')
    (hlifted : LiftedRelated (LineWrapped job.options.escapeCall) lifted lifted') :
    Output.Wrapped job.options.escapeCall job.options.namespacePath
      (job.output (d.takeAll job ls) lifted) (job.output (d.takeAll job ls') lifted') := by
  obtain ⟨hbody, hsections⟩ := regionLines_sublist h
  obtain ⟨hbody', hsections'⟩ := regionLines_sublist h'
  obtain ⟨himports, hkept⟩ := d.imports_of_wrapped job ls hls'
  refine ⟨rfl, rfl, ?_, ?_, sections_wrapped hlifted.2 hsections hsections', ?_, himports, hkept⟩
  · exact (Draft.takeAll_params job d ls).trans (Draft.takeAll_params job d ls').symm
  · exact (Draft.takeAll_layout job d ls).trans (Draft.takeAll_layout job d ls').symm
  · show List.Forall₂ _ (lineSpans lifted.1.flatten) (lineSpans lifted'.1.flatten)
    rw [lineSpans_flatten_of_sublist hbody, lineSpans_flatten_of_sublist hbody']
    exact hlifted.1

/-- Two bodies with wrapped leaves fail alike or have wrapped outputs. -/
theorem Job.passes_wrapped (job : Job) (hcall : '\n' ∉ job.options.escapeCall) (d : Draft)
    {ls ls' : List Leaf} (h : LeavesWrapped job.options.escapeCall ls ls')
    (hls' : ls'.any Leaf.escapes = false) :
    SameResult (Output.Wrapped job.options.escapeCall job.options.namespacePath)
      ((regionLines job.template (lineSpans (leavesText ls))).map (job.output (d.takeAll job ls)))
      ((regionLines job.template (lineSpans (leavesText ls'))).map
        (job.output (d.takeAll job ls'))) := by
  have hlines := h.leavesText.lines hcall (p := []) List.not_mem_nil
  have hsame := regionLines_related (fun _ _ hl => LineWrapped.indistinct hl) hlines job.template
  generalize hr : regionLines job.template (lineSpans ([] ++ leavesText ls)) = r at hsame
  generalize hr' : regionLines job.template (lineSpans ([] ++ leavesText ls')) = r' at hsame
  rw [List.nil_append] at hr hr'
  rw [hr, hr']
  cases hsame with
  | error e => exact .error e
  | ok hlifted => exact .ok (job.output_wrapped d hls' hr hr' hlifted)

/-- The draft before the body is the same in both runs. -/
theorem Job.opened_withEscape (job : Job) {root : Node}
    (h : ∀ n ∈ root.diverted?, n.holdsExpression = false) :
    (job.withEscape true).opened root = (job.withEscape false).opened root := by
  rw [Job.opened, Job.opened]
  cases hn : root.diverted? with
  | none => rfl
  | some n =>
    show job.readDeclarations _ = job.readDeclarations _
    rw [n.leaves_of_no_expression job [] (h n hn)]

/-- **Turning escaping off changes nothing but the wrappers and one import.**  Where every
    expression with a wrapper makes one line in its frame and the declarations hold no expression,
    compilation fails in both runs with the same error, or succeeds in both with the same function,
    parameters and layout, with sections of the same names, with lines that are the same but for
    wrappers, and with the same imports but for the escape package. -/
theorem compile_unescaped (path : Text) (root : Node) (options : Options)
    (hframed : root.isFramed false = true)
    (hdiverted : ∀ n ∈ root.diverted?, n.holdsExpression = false)
    (hpath : '\n' ∉ options.namespacePath) :
    SameResult (Output.Wrapped options.escapeCall options.namespacePath)
      (compile ⟨path, root⟩ { options with escape := true })
      (compile ⟨path, root⟩ { options with escape := false }) := by
  let job := Job.ofPath path options
  show SameResult _ ((job.withEscape true).compile root) ((job.withEscape false).compile root)
  rw [Job.compile_eq, Job.compile_eq, job.opened_withEscape hdiverted]
  cases (job.withEscape false).opened root with
  | error e => exact .error _
  | ok d =>
    have hcall : '\n' ∉ job.options.escapeCall := Options.not_mem_escapeCall hpath (by decide)
    have hleaves := nodesLeaves_wrapped job d.params root.body (Node.nodesFramed_body hframed)
    exact job.passes_wrapped hcall d hleaves (escapes_of_unescaped job d.params root.body)

/-- A layout with a parameter, a wrapped expression in a section, one in a parenthesis, and one
    that holds markup and so has no wrapper. -/
def layoutWithSection : Node :=
  .program [
    .control [] [.token ⟨.other "CODE".toList, "var side string".toList⟩],
    .control [] [.token ⟨.other "CODE".toList, "section foot \x7b".toList⟩],
    .markup [.node (.expression [] [
      .token ⟨.other "TEXT".toList, "title".toList⟩,
      .node (.expression [] [.token ⟨.other "TEXT".toList, ".Year".toList⟩]),
      .token ⟨.other "TEXT".toList, "()".toList⟩])],
    .control [] [.token ⟨.other "CODE".toList, "\x7d".toList⟩],
    .expression [] [.token ⟨.other "TEXT".toList, "side".toList⟩],
    .expression [] [
      .token ⟨.other "TEXT".toList, "if x\n\x7b".toList⟩,
      .node (.markup [.node (.expression [] [.token ⟨.other "TEXT".toList, "x".toList⟩])])]]

/-- The two runs on `layoutWithSection`, with the wrappers on the lines of its body and section. -/
theorem compile_unescaped_layoutWithSection :
    layoutWithSection.isFramed false = true
      ∧ (∀ n ∈ layoutWithSection.diverted?, n.holdsExpression = false)
      ∧ '\n' ∉ ({} : Options).namespacePath
      ∧ SameResult (Output.Wrapped ({} : Options).escapeCall ({} : Options).namespacePath)
        (compile ⟨"views/layout/base.gohtml".toList, layoutWithSection⟩ { escape := true })
        (compile ⟨"views/layout/base.gohtml".toList, layoutWithSection⟩ { escape := false }) := by
  have hframed : layoutWithSection.isFramed false = true := by decide
  have hdiverted : ∀ n ∈ layoutWithSection.diverted?, n.holdsExpression = false := by decide
  exact ⟨hframed, hdiverted, by decide, compile_unescaped _ _ {} hframed hdiverted (by decide)⟩

end GoTemplate
