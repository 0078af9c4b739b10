/-
  Markup in a node of declarations is refused.

  A control node that comes first is read as declarations, but markup can stand in it.  Its text
  reaches the reader as the argument of a write statement, quoted.  Such a line is no declaration,
  outside a group or in one, whatever the text was (`Reading.line_writeLine`): quotes, slashes,
  semicolons and parentheses in it are all INSIDE a string literal.

  1. A quoted text, read after its opening quote, stays in the literal (`staysInside_quoted`), so
     the scan is behind it as if it were empty (`settles_inside`, `balanced_inside`).
  2. So the line is one statement that closes no group, and it begins with a name and a dot, as no
     spec does.
  3. Without expressions every fragment brings its own line end, so the statement has a line of its
     own, and its number is known (`lines_writeLine`).
  4. The reader refuses that line if it gets there, and otherwise a line before it
     (`parseDeclarations_writeLine`).
-/
import GoTemplate.Proofs.LineComposition
import GoTemplate.Proofs.TokenRuns
import GoTemplate.Proofs.Unescaped

namespace GoTemplate

/-! ## Inside a literal -/

theorem staysInside_append {escaped : Bool} {u v : Text} (hu : staysInside escaped u = true)
    (hv : staysInside false v = true) : staysInside escaped (u ++ v) = true := by
  induction u generalizing escaped with
  | nil =>
    cases escaped with
    | false => exact hv
    | true => exact absurd hu Bool.false_ne_true
  | cons c u ih =>
    rw [List.cons_append, staysInside]
    rw [staysInside] at hu
    split at hu
    · next h => rw [if_pos h, ih hu]
    · next h =>
      obtain ⟨hc, hrest⟩ := Bool.and_eq_true_iff.1 hu
      rw [if_neg h, hc, ih hrest]
      rfl

theorem staysInside_quoteChar (c : Char) : staysInside false (Go.quoteChar c) = true := by
  have hdigits : ∀ n < 0xa0, staysInside false (hexadecimal 2 n) = true
      ∧ staysInside false (hexadecimal 4 n) = true := by decide +kernel
  unfold Go.quoteChar
  split
  -- the nine named escapes
  iterate 9 rfl
  next hquote hslash _ _ _ _ _ _ _ =>
    split
    · next hc =>
      have hlt := Go.isControl_lt hc
      split
      · exact (hdigits _ hlt).1
      · rw [if_pos (by omega)]
        exact (hdigits _ hlt).2
    · have hescape : (c == '\\') = false := beq_false_of_ne hslash
      rw [staysInside, if_neg Bool.false_ne_true, hescape, bne_iff_ne.2 hquote]
      rfl

/-- **A quoted text stays inside its literal.** -/
theorem staysInside_quoted (t : Text) : staysInside false (t.flatMap Go.quoteChar) = true := by
  induction t with
  | nil => rfl
  | cons c t ih =>
    rw [List.flatMap_cons]
    exact staysInside_append (staysInside_quoteChar c) ih

/-! ## A write statement is no declaration -/

/-- A write statement with a quoted argument, without its line end. -/
def writeLine (t : Text) : Text := writeCall ++ Go.quote t ++ [')']

theorem writeLine_eq (t : Text) :
    writeLine t = writeCall ++ '"' :: (t.flatMap Go.quoteChar ++ ['"', ')']) := by
  simp [writeLine, Go.quote]

theorem settles_writeLine (t : Text) : settles .code (writeLine t) = true := by
  rw [writeLine_eq]
  show settles (.literal '"' false) (t.flatMap Go.quoteChar ++ '"' :: [')']) = true
  rw [settles_inside (staysInside_quoted t)]
  rfl

theorem balanced_writeLine (t : Text) : balanced .code 0 (writeLine t) = true := by
  rw [writeLine_eq]
  show balanced (.literal '"' false) 1 (t.flatMap Go.quoteChar ++ '"' :: [')']) = true
  rw [balanced_inside (staysInside_quoted t)]
  rfl

theorem statements_writeLine (t : Text) : statements (writeLine t) = [writeLine t] := by
  have hmeet : meetsSlash (writeLine t) [] = false := by simp [meetsSlash]
  have h := statements_append (settles_writeLine t) hmeet (show statements [] = [[]] from rfl)
  rwa [List.append_nil] at h

theorem groupClose?_writeLine (t : Text) : groupClose? .code 0 (writeLine t) = none := by
  have h := groupClose?_append (settles_writeLine t) (balanced_writeLine t) []
  rwa [List.append_nil] at h

theorem tight_writeLine (t : Text) : Tight (writeLine t) :=
  (tight_of_all (List.cons_ne_nil _ _) (by decide)).append
    (tight_of_all (List.cons_ne_nil _ _) (by decide)) _

/-- The name at the start of a write statement, and the dot behind it. -/
theorem identifier?_writeLine (t : Text) :
    ∃ rest, identifier? (writeLine t) = some ("_buffer".toList, '.' :: rest) :=
  ⟨_, rfl⟩

/-- **A write statement is a spec of no group.** -/
theorem Group.spec?_writeLine (g : Group) (t : Text) : g.spec? (writeLine t) = none := by
  obtain ⟨rest, hname⟩ := identifier?_writeLine t
  cases g with
  | imports =>
    have hlocal : localName? (writeLine t) = some ("_buffer".toList, '.' :: rest) := hname
    show (importSpec? (writeLine t)).map _ = none
    rw [importSpec?, (tight_writeLine t).trim, hlocal]
    rfl
  | vars =>
    show varSpec? (writeLine t) = none
    rw [varSpec?, (tight_writeLine t).trim, hname]
    show (namesAndType? ('.' :: rest)).bind _ = none
    have hnext : nextName? ('.' :: rest) = none := rfl
    have htype : type? ('.' :: rest) = none := rfl
    rw [namesAndType?]
    split
    · next h => rw [hnext] at h; cases h
    · rw [htype]
      rfl

/-- **A write statement is refused in every state of the reader.** -/
theorem Reading.line_writeLine (r : Reading) (t : Text) : r.line (writeLine t) = none := by
  have hspec := fun g : Group => g.spec?_writeLine t
  have hstep : r.step (writeLine t) = none := by
    rw [Reading.step]
    cases r.group with
    | none =>
      show (Group.imports.spec? (writeLine t)).map _ = none
      rw [hspec]
      rfl
    | some g =>
      show r.groupStep g (writeLine t) = none
      have hink : (writeLine t).isEmpty = false := rfl
      rw [Reading.groupStep, groupClose?_writeLine]
      show (g.piece? (writeLine t)).map _ = none
      rw [Group.piece?, (tight_writeLine t).trim, hink, if_neg Bool.false_ne_true, hspec]
      rfl
  show (statements (writeLine t)).foldlM (fun r stmt => r.run (trim stmt)) r = none
  rw [statements_writeLine, List.foldlM_cons, (tight_writeLine t).trim,
    r.run_step (tight_writeLine t).ne_nil, hstep]
  rfl

/-! ## The line of a literal -/

/-- A text of whole lines. -/
def EndsLine (t : Text) : Prop := t = [] ∨ ∃ u, t = u ++ ['\n']

theorem EndsLine.append {s t : Text} (hs : EndsLine s) (ht : EndsLine t) : EndsLine (s ++ t) := by
  rcases ht with rfl | ⟨u, rfl⟩
  · rwa [List.append_nil]
  · exact .inr ⟨s ++ u, (List.append_assoc s u _).symm⟩

/-- Behind whole lines, as many as line feeds, a text has its own. -/
theorem EndsLine.lineSpans {s : Text} (hs : EndsLine s) (t : Text) :
    lineSpans (s ++ t) = lineSpans s ++ lineSpans t ∧ (lineSpans s).length = s.count '\n' := by
  rcases hs with rfl | ⟨u, rfl⟩
  · exact ⟨rfl, rfl⟩
  · rw [List.append_assoc, List.singleton_append, lineSpans_seam, length_lineSpans_ended,
      List.count_append]
    exact ⟨rfl, rfl⟩

theorem render_literal_of_ink {v : Text} (hv : hasInk v = true) :
    Fragment.render ⟨.literal, v⟩ = writeLine (stripNewlines v) ++ ['\n'] := by
  rw [render_literal, if_pos hv]
  simp [writeStatement, writeLine]

theorem Fragment.endsLine_render {f : Fragment} (hf : f.kind ≠ .expression) :
    EndsLine f.render := by
  obtain ⟨k, v⟩ := f
  cases k with
  | expression => exact absurd rfl hf
  | control => exact .inr ⟨v, rfl⟩
  | literal =>
    by_cases hv : hasInk v = true
    · exact .inr ⟨_, render_literal_of_ink hv⟩
    · rw [render_literal, if_neg hv]
      exact .inl rfl

theorem Buffer.endsLine_flatten {b : Buffer} (hb : ∀ f ∈ b, f.kind ≠ .expression) :
    EndsLine b.flatten := by
  induction b with
  | nil => exact .inl rfl
  | cons f b ih =>
    obtain ⟨hf, hrest⟩ := List.forall_mem_cons.1 hb
    exact (f.endsLine_render hf).append (ih hrest)

/-- **A literal with ink has a line of its own**, with as many lines before it as line feeds. -/
theorem lines_writeLine {front : Buffer} (hfront : ∀ f ∈ front, f.kind ≠ .expression) {v : Text}
    (hv : hasInk v = true) (back : Buffer) :
    ∃ before after,
      lines (Buffer.flatten (front ++ ⟨.literal, v⟩ :: back))
        = before ++ writeLine (stripNewlines v) :: after
      ∧ before.length = (Buffer.flatten front).count '\n' := by
  let w := writeLine (stripNewlines v)
  have hline : '\n' ∉ w := by
    have hcall : '\n' ∉ writeCall := by decide
    have hquote := Go.newline_not_mem_quote (stripNewlines v)
    simp [w, writeLine, hcall, hquote]
  have hlast : w.getLast? ≠ some '\r' := by simp [w, writeLine]
  have htext : Buffer.flatten (front ++ ⟨.literal, v⟩ :: back)
      = Buffer.flatten front ++ (w ++ '\n' :: Buffer.flatten back) := by
    show (front ++ ⟨.literal, v⟩ :: back).flatMap Fragment.render = _
    rw [List.flatMap_append, List.flatMap_cons, render_literal_of_ink hv, List.append_assoc]
    rfl
  obtain ⟨hcut, hcount⟩ := (Buffer.endsLine_flatten hfront).lineSpans
    (w ++ '\n' :: Buffer.flatten back)
  refine ⟨lines (Buffer.flatten front), lines (Buffer.flatten back), ?_, ?_⟩
  · rw [htext, lines, hcut, List.map_append]
    exact congrArg _ (lines_append_newline hline hlast (Buffer.flatten back))
  · rw [lines, List.length_map, hcount]

/-- A refused line is one of those that were read. -/
theorem Reading.line_lt_of_lines {n : Nat} {r : Reading} {ls : List Text} {e : Rejection}
    (h : Reading.lines n r ls = .error e) : e.line < n + ls.length := by
  induction ls generalizing n r with
  | nil => cases h
  | cons l ls ih =>
    rw [List.length_cons]
    rw [Reading.lines] at h
    split at h
    · have hlt := ih h
      omega
    · cases h
      show n < n + (ls.length + 1)
      omega

/-- **A text with a write statement on a line is refused there or before.** -/
theorem parseDeclarations_writeLine {t v : Text} {before after : List Text}
    (h : lines t = before ++ writeLine v :: after) :
    ∃ e, parseDeclarations t = .error e ∧ e.line ≤ before.length + 1 := by
  rw [parseDeclarations_eq, h, Reading.lines_append]
  cases hread : Reading.lines 1 {} before with
  | error e =>
    have hlt := Reading.line_lt_of_lines hread
    exact ⟨e, rfl, by omega⟩
  | ok r =>
    refine ⟨⟨1 + before.length, trim (writeLine v)⟩, ?_, (Nat.add_comm _ _).le⟩
    show (Reading.lines (1 + before.length) r (writeLine v :: after)).bind _ = _
    rw [Reading.lines, r.line_writeLine]
    rfl

/-! ## Trees without expressions -/

mutual

theorem Node.parent_of_placed : ∀ {n : Node} {nested : Bool}, n.holdsExpression = false →
    ∀ p ∈ n.placed nested, p.parent ≠ .expression
  | .program _, _, h => parent_of_nodesPlaced h
  | .markup _, _, h => parent_of_childrenPlaced Mode.noConfusion h
  | .control _ _, _, h => parent_of_childrenPlaced Mode.noConfusion h
  | .expression _ _, _, h => absurd h.symm Bool.false_ne_true

theorem parent_of_nodesPlaced : ∀ {ns : List Node}, nodesHoldExpression ns = false →
    ∀ p ∈ nodesPlaced ns, p.parent ≠ .expression
  | [], _, p, hp => absurd hp List.not_mem_nil
  | n :: rest, h, p, hp => by
    obtain ⟨hn, hrest⟩ := Bool.or_eq_false_iff.1 h
    rcases List.mem_append.1 hp with hp | hp
    · exact Node.parent_of_placed hn p hp
    · exact parent_of_nodesPlaced hrest p hp

theorem parent_of_childrenPlaced : ∀ {cs : List Child} {parent : Mode} {nested : Bool}
    {siblings : List Child} {index : Nat}, parent ≠ .expression →
    childrenHoldExpression cs = false →
    ∀ p ∈ childrenPlaced parent nested siblings index cs, p.parent ≠ .expression
  | [], _, _, _, _, _, _, p, hp => absurd hp List.not_mem_nil
  | .token _ :: rest, _, _, _, _, hparent, h, p, hp => by
    have hrest : childrenHoldExpression rest = false := h
    rcases List.mem_cons.1 hp with rfl | hp
    · exact hparent
    · exact parent_of_childrenPlaced hparent hrest p hp
  | .node n :: rest, _, _, _, _, hparent, h, p, hp => by
    obtain ⟨hn, hrest⟩ := Bool.or_eq_false_iff.1 h
    rcases List.mem_append.1 hp with hp | hp
    · exact Node.parent_of_placed hn p hp
    · exact parent_of_childrenPlaced hparent hrest p hp

end

theorem Job.kind_of_contribution {job : Job} {params : List Param} {p : PlacedToken}
    {f : Fragment} (hp : p.parent ≠ .expression) (h : job.contribution params p = some f) :
    f.kind ≠ .expression := by
  rw [Job.contribution] at h
  split at h
  · cases h
  · cases h
    exact FragmentKind.noConfusion
  · split at h
    · cases h
    · cases h
      exact FragmentKind.noConfusion
  · next hparent => exact absurd hparent hp

/-- Joining makes no new kinds. -/
theorem kind_of_mem_runs {fs : List Fragment} {k : FragmentKind} (hfs : ∀ f ∈ fs, f.kind ≠ k) :
    ∀ f ∈ runs fs, f.kind ≠ k := by
  induction fs with
  | nil => exact fun f hf => absurd hf List.not_mem_nil
  | cons g fs ih =>
    obtain ⟨hg, hrest⟩ := List.forall_mem_cons.1 hfs
    have hruns := ih hrest
    show ∀ f ∈ Buffer.cons g (runs fs), f.kind ≠ k
    cases h : runs fs with
    | nil => exact List.forall_mem_singleton.2 hg
    | cons f b =>
      rw [h] at hruns
      rw [Buffer.cons]
      split
      · exact List.forall_mem_cons.2 ⟨hg, fun x hx => hruns x (List.mem_cons_of_mem f hx)⟩
      · exact List.forall_mem_cons.2 ⟨hg, hruns⟩

/-- The walk into the buffer of a first node: it ends, and without expressions in the node there are
    none in the buffer. -/
theorem Job.visitControl_aside (job : Job) {children : List Child}
    (hnone : childrenHoldExpression children = false) (d : Draft) :
    ∃ s, job.visitControl (hasBracePair children) true children
          { d with parts := [], firstNodeSeen := true } = .ok s
      ∧ ∀ f ∈ s.parts, f.kind ≠ .expression := by
  let aside : Draft := { d with parts := [], firstNodeSeen := true }
  let ls := controlLeaves job d.params (hasBracePair children) true children
  refine ⟨aside.takeAll job ls, visitControl_of_seen job _ true children aside rfl, ?_⟩
  have hparts : (aside.takeAll job ls).parts = runs (ls.map Leaf.toFragment) :=
    Draft.takeAll_parts job aside ls [] rfl
  have hleaves : ls.map Leaf.toFragment
      = (childrenPlaced .control false children 0 children).filterMap
          (job.contribution d.params) :=
    map_controlLeaves job d.params children [] false
  rw [hparts, hleaves]
  refine kind_of_mem_runs fun f hf => ?_
  obtain ⟨p, hp, hf⟩ := List.mem_filterMap.1 hf
  exact Job.kind_of_contribution (parent_of_childrenPlaced Mode.noConfusion hnone p hp) hf

/-- **Markup in a first node without expressions is always refused.**  The node is walked into a
    buffer of its own.  If a literal in there is more than line feeds, the buffer's text has a line
    that writes it, and visiting the node fails with a declaration error on that line or before; so
    not behind the first such literal. -/
theorem stray_markup_refused (job : Job) (enclosing : Option Mode) (tagName : Text)
    (children : List Child) (d : Draft) (hseen : d.firstNodeSeen = false)
    (hnone : (Node.control tagName children).holdsExpression = false) :
    ∃ s, job.visitControl (hasBracePair children) true children
          { d with parts := [], firstNodeSeen := true } = .ok s
      ∧ ∀ front v back, s.parts = front ++ ⟨.literal, v⟩ :: back → hasInk v = true →
          (lines s.parts.flatten)[(Buffer.flatten front).count '\n']?
            = some (writeCall ++ Go.quote (stripNewlines v) ++ [')'])
          ∧ ∃ line text e, job.visit enclosing (.control tagName children) d
              = .error ⟨⟨job.template, .declaration line text⟩, e⟩
            ∧ line ≤ (Buffer.flatten front).count '\n' + 1 := by
  obtain ⟨s, hwalk, hkinds⟩ := job.visitControl_aside hnone d
  refine ⟨s, hwalk, fun front v back hparts hv => ?_⟩
  have hfront : ∀ f ∈ front, f.kind ≠ .expression := by
    intro f hf
    exact hkinds f (hparts ▸ List.mem_append_left _ hf)
  obtain ⟨before, after, hlines, hcount⟩ := lines_writeLine hfront hv back
  rw [← hparts] at hlines
  rw [← hcount]
  constructor
  · rw [hlines, List.getElem?_append_right le_rfl, Nat.sub_self]
    rfl
  · obtain ⟨e, hrefused, hle⟩ := parseDeclarations_writeLine hlines
    refine ⟨e.line, e.text, { s with parts := d.parts }, ?_, hle⟩
    rw [Job.visit, hseen, if_neg Bool.false_ne_true, hwalk]
    show Draft.declare job.template { s with parts := d.parts } s.parts.flatten = _
    rw [Draft.declare, hrefused]

/-- Inside braces and in an open group, markup that would close the group, end the statement and
    declare a parameter. -/
theorem stray_markup_refused_group :
    ∃ (job : Job) (children : List Child) (v : Text),
      v = "\\\"); var x int //\n".toList
      ∧ (∃ s front back, job.visitControl (hasBracePair children) true children
            { firstNodeSeen := true } = .ok s
          ∧ s.parts = front ++ ⟨.literal, v⟩ :: back ∧ (Buffer.flatten front).count '\n' = 2)
      ∧ ∃ line text e, job.visit (some .program) (.control [] children) {}
          = .error ⟨⟨job.template, .declaration line text⟩, e⟩ ∧ line ≤ 3 := by
  let job := Job.ofPath "home/index.gohtml".toList {}
  let v : Text := "\\\"); var x int //\n".toList
  let children : List Child := [
    .token ⟨.other "BRACE".toList, "\x7b".toList⟩,
    .token ⟨.other "CODE".toList, "import (\n\"a\"".toList⟩,
    .node (.markup [.token ⟨.other "TEXT".toList, v⟩]),
    .token ⟨.other "CODE".toList, ")".toList⟩,
    .token ⟨.other "BRACE".toList, "\x7d".toList⟩]
  let front : Buffer := [⟨.control, "import (\n\"a\"".toList⟩]
  let back : Buffer := [⟨.control, ")".toList⟩]
  let s : Draft := { parts := front ++ ⟨.literal, v⟩ :: back, firstNodeSeen := true }
  have hwalk : job.visitControl (hasBracePair children) true children { firstNodeSeen := true }
      = .ok s := by decide +kernel
  obtain ⟨s', hwalk', hrefused⟩ := stray_markup_refused job (some .program) [] children {} rfl rfl
  obtain rfl : s' = s := by
    have h : Except.ok s' = Except.ok s := hwalk'.symm.trans hwalk
    cases h
    rfl
  exact ⟨job, children, v, rfl, ⟨s, front, back, hwalk, rfl, rfl⟩,
    (hrefused front v back rfl rfl).2⟩

end GoTemplate
