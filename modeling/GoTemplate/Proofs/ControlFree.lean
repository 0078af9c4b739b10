/-
  Templates without control nodes are compiled faithfully.

  What such a template says is a list of PIECES in document order: markup texts and interpolated
  expressions.  Adjacent texts belong together, and a text of line feeds only says nothing
  (`toWrite`).  The body that comes out is one line for each statement, in order, and nothing
  else (`compile_of_isPlain`): a literal that denotes the text, or the values of the expression,
  every `raw` left out, in their frame.

  The proof goes through the stages of compilation:

  1. the leaves of a tree SPELL its pieces (`Node.spells`): a text is one literal leaf, an
     expression a stretch of expression leaves that make up its line.  This is where a frame that
     opens on the first child and closes on the last needs tokens there;
  2. joining leaves of one kind joins the same texts that belong together (`Spells.agrees`);
     expressions that stand side by side are joined too, but that does not show in the text;
  3. no line of a body made of write statements is a header, so the region passes change nothing.
-/
import GoTemplate.Proofs.Frames

namespace GoTemplate

/-! ## What a template says -/

/-- A piece of what a template says. -/
inductive Piece where
  | markup (text : Text)
  | interpolation (values : List Text)
deriving DecidableEq

mutual

/-- The pieces of a tree in document order; an expression is the values of all tokens in it. -/
def Node.pieces : Node → List Piece
  | .program children => nodesPieces children
  | .markup children => markupPieces children
  | .control _ _ => []
  | .expression _ children => [.interpolation (childrenValues children)]
termination_by structural n => n

/-- The pieces of the nodes of a program. -/
def nodesPieces : List Node → List Piece
  | [] => []
  | n :: rest => n.pieces ++ nodesPieces rest
termination_by structural ns => ns

/-- The pieces of the children of a markup node: every token is a text. -/
def markupPieces : List Child → List Piece
  | [] => []
  | .token t :: rest => .markup t.value :: markupPieces rest
  | .node n :: rest => n.pieces ++ markupPieces rest
termination_by structural cs => cs

end

/-- One more text in front, joined to a text that comes first. -/
def consMarkup (t : Text) : List Piece → List Piece
  | .markup u :: ps => .markup (t ++ u) :: ps
  | ps => .markup t :: ps

/-- Pieces with adjacent texts joined. -/
def joinMarkup : List Piece → List Piece
  | [] => []
  | .interpolation values :: ps => .interpolation values :: joinMarkup ps
  | .markup t :: ps => consMarkup t (joinMarkup ps)

/-- A piece that has something to write. -/
def Piece.hasInk : Piece → Bool
  | .markup t => GoTemplate.hasInk t
  | .interpolation _ => true

/-- What is to be written: joined texts with ink, and interpolations. -/
def toWrite (ps : List Piece) : List Piece := (joinMarkup ps).filter Piece.hasInk

mutual

/-- A tree without control nodes whose expressions hold no other nodes and no line feeds, and
    begin and end with a token. -/
def Node.isPlain : Node → Bool
  | .program children => nodesPlain children
  | .markup children => childrenPlain children
  | .control _ _ => false
  | .expression _ children =>
    (children.head?.bind Child.token?).isSome && endsInToken children
      && !anyNonExpression children && (childrenValues children).all (!·.contains '\n')
termination_by structural n => n

/-- All nodes of a program are such trees. -/
def nodesPlain : List Node → Bool
  | [] => true
  | n :: rest => n.isPlain && nodesPlain rest
termination_by structural ns => ns

/-- All nodes among the children of a markup node are such trees. -/
def childrenPlain : List Child → Bool
  | [] => true
  | .token _ :: rest => childrenPlain rest
  | .node n :: rest => n.isPlain && childrenPlain rest
termination_by structural cs => cs

end

/-- What is between the parentheses of the write statement for a piece. -/
def Job.argument (job : Job) : Piece → Text
  | .markup t => Go.quote (stripNewlines t)
  | .interpolation values =>
    job.opener [] (values.headD []) ++ withoutRaw values ++ job.options.closer

/-! ## Leaves spell pieces -/

/-- Leaves that spell pieces, each of which can be written on one line. -/
inductive Spells (job : Job) : List Leaf → List Piece → Prop
  | nil : Spells job [] []
  | markup (t : Text) {ls : List Leaf} {ps : List Piece} : Spells job ls ps →
      Spells job (⟨⟨.literal, t⟩, false⟩ :: ls) (.markup t :: ps)
  | interpolation {values : List Text} {es ls : List Leaf} {ps : List Piece} (hne : es ≠ [])
      (hkind : ∀ l ∈ es, l.kind = .expression)
      (htext : joined es = writeStatement (job.argument (.interpolation values)))
      (hline : '\n' ∉ job.argument (.interpolation values)) : Spells job ls ps →
      Spells job (es ++ ls) (.interpolation values :: ps)

theorem Spells.append {job : Job} {ls ms : List Leaf} {ps qs : List Piece}
    (h : Spells job ls ps) (h' : Spells job ms qs) : Spells job (ls ++ ms) (ps ++ qs) := by
  induction h with
  | nil => exact h'
  | markup t _ ih => exact .markup t ih
  | interpolation hne hkind htext hline _ ih =>
    rw [List.append_assoc]
    exact .interpolation hne hkind htext hline ih

/-- The argument for values without line feeds is without line feeds. -/
theorem newline_not_mem_argument {job : Job} (hns : '\n' ∉ job.options.namespacePath)
    (values : List Text) (h : ∀ v ∈ values, '\n' ∉ v) :
    '\n' ∉ job.argument (.interpolation values) := by
  have hopener : '\n' ∉ job.opener [] (values.headD []) := by
    rw [Job.opener]
    split
    · split
      · exact Options.not_mem_escapeCall hns (by decide)
      · decide
    · exact List.not_mem_nil
  have hvalues : '\n' ∉ withoutRaw values := not_mem_withoutRaw h
  have hcloser : '\n' ∉ job.options.closer := by
    rw [Options.closer]
    split <;> decide
  rw [Job.argument, List.mem_append, List.mem_append]
  rintro ((hc | hc) | hc)
  · exact hopener hc
  · exact hvalues hc
  · exact hcloser hc

theorem spells_expression {job : Job} (hns : '\n' ∉ job.options.namespacePath) (tagName : Text)
    {cs : List Child} (h : (Node.expression tagName cs).isPlain = true) {enclosing : Option Mode}
    (he : enclosing ≠ some .expression) :
    Spells job ((Node.expression tagName cs).leaves job [] enclosing)
      (Node.expression tagName cs).pieces := by
  simp only [Node.isPlain, Bool.and_eq_true, Bool.not_eq_true', List.all_eq_true] at h
  obtain ⟨⟨⟨hhead, hend⟩, hhom⟩, hvalues⟩ := h
  cases cs with
  | nil => nomatch hhead
  | cons c rest =>
    cases c with
    | node n => nomatch hhead
    | token t =>
      have hline := newline_not_mem_argument hns (childrenValues (.token t :: rest))
        fun v hv hc => by simpa [hc] using hvalues v hv
      have hkind := Node.kind_of_mem_leaves job [] enclosing (.expression tagName (.token t :: rest))
        hhom
      have htext := joined_expression job [] he tagName t rest hhom hend
      rw [← List.append_nil (Node.leaves job [] enclosing _)]
      exact .interpolation (List.cons_ne_nil _ _) hkind htext hline .nil

mutual

/-- **The leaves of a plain tree spell its pieces.** -/
theorem Node.spells {job : Job} (hns : '\n' ∉ job.options.namespacePath) : ∀ (n : Node),
    n.isPlain = true → ∀ enclosing : Option Mode, enclosing ≠ some .expression →
    Spells job (n.leaves job [] enclosing) n.pieces
  | .program ns, h, _, _ => spells_nodes hns ns h
  | .markup cs, h, _, _ => spells_markup hns cs h
  | .expression tagName _, h, _, he => spells_expression hns tagName h he
  | .control _ _, h, _, _ => nomatch h
termination_by structural n => n

theorem spells_nodes {job : Job} (hns : '\n' ∉ job.options.namespacePath) : ∀ (ns : List Node),
    nodesPlain ns = true → Spells job (nodesLeaves job [] ns) (nodesPieces ns)
  | [], _ => .nil
  | n :: rest, h => by
    obtain ⟨hn, hrest⟩ := Bool.and_eq_true_iff.1 h
    exact (Node.spells hns n hn (some .program) nofun).append (spells_nodes hns rest hrest)
termination_by structural ns => ns

theorem spells_markup {job : Job} (hns : '\n' ∉ job.options.namespacePath) : ∀ (cs : List Child),
    childrenPlain cs = true → Spells job (markupLeaves job [] cs) (markupPieces cs)
  | [], _ => .nil
  | .token t :: rest, h => .markup t.value (spells_markup hns rest h)
  | .node n :: rest, h => by
    obtain ⟨hn, hrest⟩ := Bool.and_eq_true_iff.1 h
    exact (Node.spells hns n hn (some .markup) nofun).append (spells_markup hns rest hrest)
termination_by structural cs => cs

end

/-! ## The text of spelled pieces -/

/-- The text that a piece contributes. -/
def Job.pieceText (job : Job) (p : Piece) : Text :=
  if p.hasInk then writeStatement (job.argument p) else []

/-- A buffer and joined pieces that agree: they begin with the same text, or neither begins with
    a text, and what they make up is the same. -/
inductive Agrees (job : Job) : Buffer → List Piece → Prop
  | markup (t : Text) {b : Buffer} {ps : List Piece}
      (h : Buffer.flatten b = ps.flatMap job.pieceText) :
      Agrees job (⟨.literal, t⟩ :: b) (.markup t :: ps)
  | other {b : Buffer} {ps : List Piece} (hb : ∀ t b', b ≠ ⟨.literal, t⟩ :: b')
      (hps : ∀ t ps', ps ≠ .markup t :: ps')
      (h : Buffer.flatten b = ps.flatMap job.pieceText) : Agrees job b ps

theorem Agrees.flatten {job : Job} {b : Buffer} {ps : List Piece} (h : Agrees job b ps) :
    Buffer.flatten b = ps.flatMap job.pieceText := by
  cases h with
  | markup t h =>
    show Fragment.render ⟨.literal, t⟩ ++ Buffer.flatten _ = _
    rw [render_literal, h]
    rfl
  | other _ _ h => exact h

/-- One more text in front is joined on both sides, or on neither. -/
theorem Agrees.cons_markup {job : Job} {b : Buffer} {ps : List Piece} (h : Agrees job b ps)
    (t : Text) : Agrees job (Buffer.cons ⟨.literal, t⟩ b) (consMarkup t ps) := by
  cases h with
  | markup u h => exact .markup (t ++ u) h
  | other hb hps h =>
    have hbuffer : Buffer.cons ⟨.literal, t⟩ b = ⟨.literal, t⟩ :: b := by
      match b with
      | [] => rfl
      | ⟨.literal, u⟩ :: b' => exact absurd rfl (hb u b')
      | ⟨.control, _⟩ :: _ => rfl
      | ⟨.expression, _⟩ :: _ => rfl
    have hpieces : consMarkup t ps = .markup t :: ps := by
      match ps with
      | [] => rfl
      | .markup u :: ps' => exact absurd rfl (hps u ps')
      | .interpolation _ :: _ => rfl
    rw [hbuffer, hpieces]
    exact .markup t h

/-- Expressions in front join each other, not what follows, and that does not show. -/
theorem flatten_expressions {es : List Leaf} (hkind : ∀ l ∈ es, l.kind = .expression)
    (b : Buffer) : Buffer.flatten ((es.map Leaf.toFragment).foldr Buffer.cons b)
      = joined es ++ Buffer.flatten b := by
  induction es with
  | nil => rfl
  | cons l es ih =>
    have hl : l.toFragment = ⟨.expression, l.value⟩ := by
      rw [← hkind l List.mem_cons_self]
    have hrest := ih fun m hm => hkind m (List.mem_cons_of_mem l hm)
    rw [List.map_cons, List.foldr_cons, hl, flatten_cons_expression, hrest, ← List.append_assoc]
    rfl

theorem Buffer.cons_expression_ne (v : Text) (b : Buffer) (t : Text) (b' : Buffer) :
    Buffer.cons ⟨.expression, v⟩ b ≠ ⟨.literal, t⟩ :: b' := by
  intro h
  cases b with
  | nil => cases h
  | cons g b =>
    rw [Buffer.cons] at h
    split at h <;> cases h

/-- **The buffer of leaves that spell pieces agrees with the joined pieces.** -/
theorem Spells.agrees {job : Job} {ls : List Leaf} {ps : List Piece} (h : Spells job ls ps) :
    Agrees job (runs (ls.map Leaf.toFragment)) (joinMarkup ps) := by
  induction h with
  | nil => exact .other nofun nofun rfl
  | markup t _ ih => exact ih.cons_markup t
  | @interpolation values es ls ps hne hkind htext _ _ ih =>
    have hruns : runs ((es ++ ls).map Leaf.toFragment)
        = (es.map Leaf.toFragment).foldr Buffer.cons (runs (ls.map Leaf.toFragment)) := by
      rw [List.map_append, runs, List.foldr_append]
      rfl
    rw [hruns]
    -- an expression ends the run of texts on both sides
    refine .other (fun t b' => ?_) nofun ?_
    · obtain ⟨e, es, rfl⟩ := List.exists_cons_of_ne_nil hne
      have he : e.toFragment = ⟨.expression, e.value⟩ := by
        rw [← hkind e List.mem_cons_self]
      rw [List.map_cons, List.foldr_cons, he]
      exact Buffer.cons_expression_ne _ _ t b'
    · rw [flatten_expressions hkind, htext, ih.flatten]
      rfl

/-! ## The lines of the body -/

theorem mem_joinMarkup {values : List Text} {ps : List Piece}
    (h : .interpolation values ∈ joinMarkup ps) : .interpolation values ∈ ps := by
  induction ps with
  | nil => exact h
  | cons p ps ih =>
    cases p with
    | interpolation vs =>
      rcases List.mem_cons.1 h with he | h
      · rw [he]; exact List.mem_cons_self
      · exact List.mem_cons_of_mem _ (ih h)
    | markup t =>
      refine List.mem_cons_of_mem _ (ih ?_)
      rw [joinMarkup, consMarkup.eq_def] at h
      split at h
      · next u qs hqs => rw [hqs]; simpa using h
      · simpa using h

theorem Spells.newline_not_mem {job : Job} {ls : List Leaf} {ps : List Piece}
    (h : Spells job ls ps) {values : List Text} (hmem : .interpolation values ∈ ps) :
    '\n' ∉ job.argument (.interpolation values) := by
  induction h with
  | nil => exact absurd hmem List.not_mem_nil
  | markup t _ ih => exact ih (by simpa using hmem)
  | interpolation _ _ _ hline _ ih =>
    rcases List.mem_cons.1 hmem with he | hmem
    · cases he; exact hline
    · exact ih hmem

/-- The lines for what is to be written. -/
def Job.pieceLines (job : Job) (ps : List Piece) : List Text :=
  (toWrite ps).map fun p => writeStatement (job.argument p)

theorem Spells.leavesText_eq {job : Job} {ls : List Leaf} {ps : List Piece}
    (h : Spells job ls ps) : leavesText ls = (job.pieceLines ps).flatten := by
  have hfilter : ∀ qs : List Piece, qs.flatMap job.pieceText
      = ((qs.filter Piece.hasInk).map fun p => writeStatement (job.argument p)).flatten := by
    intro qs
    induction qs with
    | nil => rfl
    | cons q qs ih =>
      rw [List.flatMap_cons, ih, Job.pieceText]
      cases hq : q.hasInk <;> simp [hq]
  rw [leavesText, h.agrees.flatten, hfilter]
  rfl

/-- What is to be written is cut into its lines. -/
theorem Spells.lineSpans_leavesText {job : Job} {ls : List Leaf} {ps : List Piece}
    (h : Spells job ls ps) : lineSpans (leavesText ls) = job.pieceLines ps := by
  have harg : ∀ p ∈ toWrite ps, '\n' ∉ job.argument p := by
    intro p hp
    cases p with
    | markup t => exact Go.newline_not_mem_quote _
    | interpolation values => exact h.newline_not_mem (mem_joinMarkup (List.mem_of_mem_filter hp))
  rw [h.leavesText_eq, Job.pieceLines]
  generalize toWrite ps = qs at harg
  induction qs with
  | nil => rfl
  | cons q qs ih =>
    have hq := lineSpans_writeStatement (p := []) List.not_mem_nil (harg q List.mem_cons_self)
      ((qs.map fun p => writeStatement (job.argument p)).flatten)
    rw [List.map_cons, List.flatten_cons]
    rw [List.nil_append, List.nil_append] at hq
    rw [hq, ih fun p hp => harg p (List.mem_cons_of_mem q hp)]

/-! ## Plain templates have no diverted node -/

mutual

theorem Node.mode_of_isPlain : ∀ {n m : Node}, n.isPlain = true → m ∈ n.unfold → m.mode ≠ .control
  | .program _, _, h, hm => mode_of_nodesPlain h hm
  | .markup _, _, _, hm => by rw [List.mem_singleton.1 hm]; exact nofun
  | .expression _ _, _, _, hm => by rw [List.mem_singleton.1 hm]; exact nofun
  | .control _ _, _, h, _ => nomatch h

theorem mode_of_nodesPlain : ∀ {ns : List Node} {m : Node}, nodesPlain ns = true →
    m ∈ unfoldNodes ns → m.mode ≠ .control
  | [], _, _, hm => absurd hm List.not_mem_nil
  | _ :: _, _, h, hm => by
    obtain ⟨hn, hrest⟩ := Bool.and_eq_true_iff.1 h
    rcases List.mem_append.1 hm with hm | hm
    · exact Node.mode_of_isPlain hn hm
    · exact mode_of_nodesPlain hrest hm

end

theorem Node.body_of_isPlain {root : Node} (h : root.isPlain = true) :
    root.diverted? = none ∧ root.body = root.unfold := by
  cases hu : root.unfold with
  | nil =>
    rw [Node.diverted?, Node.body, hu]
    exact ⟨rfl, rfl⟩
  | cons n ns =>
    exact Node.split_of_not_control hu (Node.mode_of_isPlain h (hu ▸ List.mem_cons_self))

/-! ## Compilation -/

/-- The line that writes a piece. -/
inductive Piece.WrittenBy (job : Job) : Piece → Text → Prop
  /-- A literal that denotes the text without the line feeds at its end. -/
  | markup {t text literal : Text} {feeds : Nat} (hfeeds : t = text ++ List.replicate feeds '\n')
      (hlast : text.getLast? ≠ some '\n') (hliteral : Go.interpreted? literal = some (text, [])) :
      Piece.WrittenBy job (.markup t) ("_buffer.WriteString(".toList ++ literal ++ ")\n".toList)
  /-- The values of an expression, every `raw` left out, in their wrapper. -/
  | interpolation (values : List Text) : Piece.WrittenBy job (.interpolation values)
      ("_buffer.WriteString(".toList
        ++ (job.opener [] (values.headD []) ++ withoutRaw values ++ job.options.closer)
        ++ ")\n".toList)

theorem writtenBy_argument (job : Job) (p : Piece) :
    p.WrittenBy job (writeStatement (job.argument p)) := by
  cases p with
  | markup t =>
    obtain ⟨hlast, feeds, hfeeds⟩ := stripNewlines_spec t
    have hquote := Go.interpreted?_quote (stripNewlines t) []
    rw [List.append_nil] at hquote
    exact .markup hfeeds hlast hquote
  | interpolation values => exact .interpolation values

/-- **Templates without control nodes are compiled faithfully.**  Compilation succeeds, with no
    parameters, layout or sections, and the body is lines that write what the template says, one
    line for each piece and in document order. -/
theorem compile_of_isPlain {root : Node} (h : root.isPlain = true) (path : Text)
    {options : Options} (hns : '\n' ∉ options.namespacePath) :
    ∃ (o : Output) (ls : List Text), compile ⟨path, root⟩ options = .ok o
      ∧ o.file.params = [] ∧ o.layout = none ∧ o.file.sections = []
      ∧ o.file.body = ls.flatten ∧ Spans ls
      ∧ List.Forall₂ (Piece.WrittenBy (Job.ofPath path options)) (toWrite root.pieces) ls := by
  let job := Job.ofPath path options
  let leaves := root.leaves job [] (some .program)
  obtain ⟨hdiverted, hbody⟩ := Node.body_of_isPlain h
  have hspells : Spells job leaves root.pieces := Node.spells hns root h (some .program) nofun
  have hlines := hspells.lineSpans_leavesText
  -- no line is a header, so both region passes let the body through
  have hregions : regionLines job.template (lineSpans (leavesText leaves))
      = .ok (job.pieceLines root.pieces, []) := by
    rw [hlines]
    refine regionLines_of_no_header (fun l hl k => ?_) job.template
    obtain ⟨p, _, rfl⟩ := List.mem_map.1 hl
    exact header?_writeStatement k.keyword [] (job.argument p)
  have hleaves : job.bodyLeaves root (Draft.fresh job) = leaves := by
    rw [Job.bodyLeaves, hbody]
    exact nodesLeaves_unfold job [] root
  refine ⟨job.output ((Draft.fresh job).takeAll job leaves) (job.pieceLines root.pieces, []),
    job.pieceLines root.pieces, ?_, Draft.takeAll_params job _ leaves,
    Draft.takeAll_layout job _ leaves, rfl, rfl, ?_, ?_⟩
  · show job.compile root = _
    rw [job.compile_eq, Job.opened, hdiverted]
    simp only [hleaves, hregions]
    rfl
  · rw [← hlines]
    exact spans_lineSpans (leavesText leaves)
  · rw [Job.pieceLines, List.forall₂_map_right_iff]
    exact List.forall₂_same.2 fun p _ => writtenBy_argument job p

/-- Markup that spans two nodes, an expression inside another, and a text that reads like a
    header. -/
def greeting : Node :=
  .program [
    .markup [.token ⟨.other "TEXT".toList, "<p>\n".toList⟩],
    .program [.markup [
      .token ⟨.other "TEXT".toList, "\n".toList⟩,
      .node (.expression [] [
        .token ⟨.other "NAME".toList, "user".toList⟩,
        .node (.expression [] [
          .token ⟨.other "SIGN".toList, ".".toList⟩, .token ⟨.other "NAME".toList, "raw".toList⟩]),
        .token ⟨.other "SIGN".toList, "()".toList⟩]),
      .token ⟨.other "TEXT".toList, "block a \x7b\n".toList⟩]]]

/-- The template says three things, and they are written. -/
theorem compile_greeting :
    greeting.isPlain = true ∧
    toWrite greeting.pieces = [
      .markup "<p>\n\n".toList,
      .interpolation ["user".toList, ".".toList, "raw".toList, "()".toList],
      .markup "block a \x7b\n".toList] ∧
    ∃ (o : Output) (ls : List Text),
      compile ⟨"views/a.gohtml".toList, greeting⟩ {} = .ok o
      ∧ o.file.params = [] ∧ o.layout = none ∧ o.file.sections = []
      ∧ o.file.body = ls.flatten ∧ Spans ls
      ∧ List.Forall₂ (Piece.WrittenBy (Job.ofPath "views/a.gohtml".toList {}))
          (toWrite greeting.pieces) ls
      ∧ ls = [
          "_buffer.WriteString(\"<p>\")\n".toList,
          "_buffer.WriteString(gotpl.HTMLEscape(user.()))\n".toList,
          "_buffer.WriteString(\"block a \x7b\")\n".toList] := by
  have hplain : greeting.isPlain = true := by decide
  obtain ⟨o, ls, ho, hparams, hlayout, hsections, hbody, hspans, hwritten⟩ :=
    @compile_of_isPlain greeting hplain "views/a.gohtml".toList {} (by decide)
  refine ⟨hplain, by decide, o, ls, ho, hparams, hlayout, hsections, hbody, hspans, hwritten, ?_⟩
  have heval : (compile ⟨"views/a.gohtml".toList, greeting⟩ {}).map (lineSpans ·.file.body)
      = .ok [
          "_buffer.WriteString(\"<p>\")\n".toList,
          "_buffer.WriteString(gotpl.HTMLEscape(user.()))\n".toList,
          "_buffer.WriteString(\"block a \x7b\")\n".toList] := by decide +kernel
  rw [ho] at heval
  rw [← hspans.lineSpans_flatten, ← hbody]
  exact Except.ok.inj heval

end GoTemplate
