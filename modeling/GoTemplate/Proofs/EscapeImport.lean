/-
  The import of the escape package and the calls it is for.

  The escape package is required when the walk OPENS a call of it.  Whether that call reaches the
  generated function is decided later: the text of the diverted node is read as declarations, block
  regions are dropped, section regions become constants.  So an import without a call in the
  function is possible (`block_leaves_import`), and only in these ways (`escape_import_exact`): it
  is there exactly if a call was opened, the function has the call exactly if a line outside all
  regions has it, and a call that was opened is in the function unless the diverted node or a
  region took it.

  Why a call opened is a call found: a leaf that opens a call is an expression leaf, its value
  begins with the call, and values of expression leaves stand in the text as they are.  A call
  holds no line feed, so it stands in one line, and that line is kept or stands in a region.
-/
import GoTemplate.Proofs.Frames
import GoTemplate.Proofs.RegionGrammar
import GoTemplate.Proofs.RequiredImports

namespace GoTemplate

/-! ## A leaf that opens a call holds it -/

/-- A leaf that opens a call is an expression leaf with the call in it. -/
def Leaf.HoldsCall (job : Job) (l : Leaf) : Prop :=
  l.escapes = true → l.kind = .expression ∧ job.options.escapeCall <:+: l.value

theorem Slot.leaf_holdsCall (s : Slot) (job : Job) (params : List Param) (t : Token) :
    (s.leaf job params t).HoldsCall job := by
  intro h
  have hescapes : s.escapes job params t.value = true := h
  refine ⟨rfl, ?_⟩
  show job.options.escapeCall <:+: s.opening job params t.value ++ shownValue t.value
    ++ s.closing job.options
  rw [Slot.opening, if_pos hescapes, List.append_assoc]
  exact List.infix_append _ _ _

theorem Leaf.Added.holdsCall {job : Job} {params : List Param} {l : Leaf}
    (h : l.Added job params) : l.HoldsCall job := by
  cases h with
  | markup t => exact nofun
  | control t => exact nofun
  | expression s t => exact s.leaf_holdsCall job params t

/-! ## Expression leaves stand in the text as they are -/

/-- A text stands in some expression of a buffer. -/
def Buffer.Expresses (b : Buffer) (v : Text) : Prop :=
  ∃ f ∈ b, f.kind = .expression ∧ v <:+: f.value

theorem Buffer.Expresses.cons {b : Buffer} {v : Text} (h : b.Expresses v) (f : Fragment) :
    (Buffer.cons f b).Expresses v := by
  obtain ⟨g, hg, hk, hv⟩ := h
  cases b with
  | nil => exact absurd hg List.not_mem_nil
  | cons g' b =>
    rw [Buffer.cons]
    split
    · next hf =>
      rcases List.mem_cons.1 hg with rfl | hg
      · exact ⟨_, List.mem_cons_self, hf.trans hk, hv.trans List.infix_append_right⟩
      · exact ⟨g, List.mem_cons_of_mem _ hg, hk, hv⟩
    · exact ⟨g, List.mem_cons_of_mem f hg, hk, hv⟩

theorem Buffer.expresses_cons (b : Buffer) {f : Fragment} (hf : f.kind = .expression) :
    (Buffer.cons f b).Expresses f.value := by
  cases b with
  | nil => exact ⟨f, List.mem_singleton.2 rfl, hf, List.infix_rfl⟩
  | cons g b =>
    rw [Buffer.cons]
    split
    · exact ⟨_, List.mem_cons_self, hf, List.infix_append_left⟩
    · exact ⟨f, List.mem_cons_self, hf, List.infix_rfl⟩

theorem Buffer.Expresses.infix_flatten {b : Buffer} {v : Text} (h : b.Expresses v) :
    v <:+: Buffer.flatten b := by
  obtain ⟨f, hf, hk, hv⟩ := h
  have hrender : f.render = f.value := by
    obtain ⟨k, w⟩ := f
    cases hk
    rfl
  have hmem : f.value ∈ b.map Fragment.render := hrender ▸ List.mem_map_of_mem hf
  rw [Buffer.flatten, List.flatMap_def]
  exact hv.trans (List.infix_of_mem_flatten hmem)

/-- **What an expression leaf adds stands in the text.** -/
theorem infix_leavesText {l : Leaf} {ls : List Leaf} (hl : l ∈ ls) (hk : l.kind = .expression) :
    l.value <:+: leavesText ls := by
  suffices h : (runs (ls.map Leaf.toFragment)).Expresses l.value from h.infix_flatten
  induction ls with
  | nil => exact absurd hl List.not_mem_nil
  | cons m ls ih =>
    show (Buffer.cons m.toFragment (runs (ls.map Leaf.toFragment))).Expresses l.value
    rcases List.mem_cons.1 hl with rfl | hl
    · exact Buffer.expresses_cons _ hk
    · exact (ih hl).cons m.toFragment

/-! ## A word in a text stands in one of its lines -/

/-- What ends with another character is not reached by the last one. -/
theorem infix_of_concat {w t : Text} {c : Char} (hne : w ≠ []) (hc : w.getLast? ≠ some c)
    (h : w <:+: t ++ [c]) : w <:+: t := by
  rcases List.infix_concat_iff.1 h with h | h
  · rcases List.suffix_concat_iff.1 h with rfl | ⟨v, rfl, _⟩
    · exact absurd rfl hne
    · exact absurd (List.getLast?_concat) hc
  · exact h

theorem infix_line_of_infix {w t : Text} (hw : '\n' ∉ w) (hne : w ≠ []) (h : w <:+: t) :
    ∃ l ∈ lineSpans t, w <:+: l := by
  rw [← flatten_lineSpans t] at h
  have hspans := spans_lineSpans t
  generalize lineSpans t = ls at h hspans
  induction hspans with
  | nil => exact absurd (List.infix_nil.1 h) hne
  | @last l _ _ => exact ⟨l, List.mem_singleton.2 rfl, by simpa using h⟩
  | @cons l ls _ _ ih =>
    rw [List.flatten_cons] at h
    rcases List.infix_append_iff.1 h with h | h | ⟨w₁, w₂, rfl, h₁, h₂⟩
    · exact ⟨_, List.mem_cons_self, h⟩
    · obtain ⟨m, hm, hwm⟩ := ih h
      exact ⟨m, List.mem_cons_of_mem _ hm, hwm⟩
    · -- a word across the end of a line would hold its line feed
      rcases List.suffix_concat_iff.1 h₁ with rfl | ⟨v, rfl, _⟩
      · obtain ⟨m, hm, hwm⟩ := ih h₂.isInfix
        exact ⟨m, List.mem_cons_of_mem _ hm, hwm⟩
      · exact absurd (by simp) hw

/-! ## Indentation neither loses words nor makes any -/

/-- A word that ends with a parenthesis is in a line exactly if it is there without the line end. -/
theorem infix_chomp_iff {w : Text} (hne : w ≠ []) (hlast : w.getLast? = some '(') (l : Text) :
    w <:+: chomp l ↔ w <:+: l := by
  have hblank : ∀ (t : Text) {c : Char}, isBlank c = true → (w <:+: t ++ [c]) = (w <:+: t) := by
    intro t c hc
    refine propext ⟨infix_of_concat hne ?_, fun h => h.trans List.infix_append_left⟩
    rw [hlast]
    rintro ⟨⟩
    exact absurd hc (by decide)
  exact iff_of_eq (apply_chomp hblank l)

/-- What starts with another character is not reached by the first one. -/
theorem infix_of_cons {w t : Text} {c : Char} (hne : w ≠ []) (hc : c ∉ w) (h : w <:+: c :: t) :
    w <:+: t := by
  rcases List.infix_cons_iff.1 h with h | h
  · obtain ⟨a, w, rfl⟩ := List.exists_cons_of_ne_nil hne
    obtain ⟨rfl, -⟩ := List.cons_prefix_cons.1 h
    exact absurd List.mem_cons_self hc
  · exact h

theorem infix_indentLines_iff {w : Text} (hne : w ≠ []) (hn : '\n' ∉ w) (ht : '\t' ∉ w)
    (ls : List Text) (inRaw : Bool) :
    w <:+: Go.indentLines inRaw ls ↔ ∃ l ∈ ls, w <:+: l := by
  induction ls generalizing inRaw with
  | nil =>
    rw [Go.indentLines, List.infix_nil]
    exact ⟨fun h => absurd h hne, fun ⟨l, hl, _⟩ => absurd hl List.not_mem_nil⟩
  | cons m ls ih =>
    rw [Go.indentLines]
    constructor
    · intro h
      rcases List.infix_append_iff.1 h with h | h | ⟨w₁, w₂, rfl, h₁, h₂⟩
      · refine ⟨m, List.mem_cons_self, ?_⟩
        split at h
        · exact h
        · exact infix_of_cons hne ht h
      · obtain ⟨l, hl, hw⟩ := (ih _).1 (infix_of_cons hne hn h)
        exact ⟨l, List.mem_cons_of_mem m hl, hw⟩
      · -- a word across the end of a line would hold its line feed
        cases w₂ with
        | nil =>
          rw [List.append_nil] at hne ht ⊢
          refine ⟨m, List.mem_cons_self, ?_⟩
          split at h₁
          · exact h₁.isInfix
          · exact infix_of_cons hne ht h₁.isInfix
        | cons a w₂ =>
          obtain ⟨rfl, -⟩ := List.cons_prefix_cons.1 h₂
          exact absurd (by simp) hn
    · rintro ⟨l, hl, hw⟩
      rcases List.mem_cons.1 hl with rfl | hl
      · refine List.IsInfix.trans ?_ List.infix_append_left
        split
        · exact hw
        · exact List.infix_cons hw
      · exact (List.infix_cons ((ih _).2 ⟨l, hl, hw⟩)).trans List.infix_append_right

theorem infix_indentBody_iff {w : Text} (hlast : w.getLast? = some '(') (hn : '\n' ∉ w)
    (ht : '\t' ∉ w) (body : Text) :
    w <:+: Go.indentBody body ↔ ∃ l ∈ lineSpans body, w <:+: l := by
  have hne : w ≠ [] := by
    rintro rfl
    nomatch hlast
  rw [Go.indentBody, infix_indentLines_iff hne hn ht, lines]
  constructor
  · rintro ⟨l, hl, hw⟩
    obtain ⟨m, hm, rfl⟩ := List.mem_map.1 hl
    exact ⟨m, hm, (infix_chomp_iff hne hlast m).1 hw⟩
  · rintro ⟨l, hl, hw⟩
    exact ⟨chomp l, List.mem_map_of_mem hl, (infix_chomp_iff hne hlast l).2 hw⟩

/-! ## The call of an import -/

/-- A leaf that opens a call puts it into the text. -/
theorem call_infix_of_escapes {job : Job} {params : List Param} {ls : List Leaf}
    (hls : ∀ l ∈ ls, l.Added job params) {l : Leaf} (hl : l ∈ ls) (he : l.escapes = true) :
    job.options.escapeCall <:+: leavesText ls := by
  obtain ⟨hk, hcall⟩ := (hls l hl).holdsCall he
  exact hcall.trans (infix_leavesText hl hk)

theorem Job.divertedLeaves_added (job : Job) (root : Node) :
    ∀ l ∈ job.divertedLeaves root, l.Added job [] := by
  intro l hl
  rw [Job.divertedLeaves] at hl
  split at hl
  · exact absurd hl List.not_mem_nil
  · exact Node.leaves_added job [] _ _ l hl

/-- A call that the walk opened stands in the text of the diverted node or of the body. -/
theorem Job.call_isInfix {job : Job} {root : Node} {d : Draft} (h : job.opened root = .ok d)
    (hopens : ∃ l ∈ job.walkedLeaves root, l.escapes = true) :
    job.options.escapeCall <:+: job.divertedText root
      ∨ job.options.escapeCall <:+: leavesText (job.bodyLeaves root d) := by
  obtain ⟨l, hl, he⟩ := hopens
  rw [Job.walkedLeaves_of_opened h] at hl
  rcases List.mem_append.1 hl with hl | hl
  · exact .inl (call_infix_of_escapes (job.divertedLeaves_added root) hl he)
  · exact .inr (call_infix_of_escapes (nodesLeaves_added job d.params root.body) hl he)

/-- If no declaration asks for the escape package, it is imported exactly if a call is opened. -/
theorem Job.import_iff_opens {job : Job} {root : Node} {o : Output} (h : job.compile root = .ok o)
    (hdeclared : ∀ ds, parseDeclarations (job.divertedText root) = .ok ds →
      ∀ i : Import, .importing i ∈ ds → i.effect.spec ≠ job.options.namespacePath)
    (hbytes : job.options.namespacePath ≠ bytesImport) :
    job.options.namespacePath ∈ o.file.imports
      ↔ ∃ l ∈ job.walkedLeaves root, l.escapes = true := by
  obtain ⟨ds, hds, himports⟩ := Job.mem_imports_iff h job.options.namespacePath
  rw [himports]
  constructor
  · rintro (hb | ⟨decl, hdecl, hspec⟩ | ⟨-, hopens⟩)
    · exact absurd hb hbytes
    · cases decl with
      | param p => nomatch hspec
      | importing i => exact absurd (Option.some.inj hspec) (hdeclared ds hds i hdecl)
    · exact hopens
  · exact fun hopens => .inr (.inr ⟨rfl, hopens⟩)

/-- **When the escape package is imported, and when it is used.**  Let a compilation succeed whose
    declarations do not import the escape package.  It is imported exactly if the walk opens a
    call.  An import has a call in the function exactly if, once a call is opened, some line
    outside the block and section regions holds one; and a call that is opened stands in the
    function, or in the text of the diverted node, or in a region. -/
theorem escape_import_exact {root : Node} {path : Text} {options : Options} {o : Output}
    (h : compile ⟨path, root⟩ options = .ok o)
    (hdeclared : ∀ ds, parseDeclarations ((Job.ofPath path options).divertedText root) = .ok ds →
      ∀ i : Import, .importing i ∈ ds → i.effect.spec ≠ options.namespacePath)
    (hbytes : options.namespacePath ≠ bytesImport) :
    let job := Job.ofPath path options
    let opens := ∃ l ∈ job.walkedLeaves root, l.escapes = true
    ∃ (d : Draft) (v : Division (lineSpans d.parts.flatten)),
      job.visit none root (Draft.start job) = .ok d
      ∧ o.file.body = v.body.flatten
      ∧ o.file.sections = v.sections.map (fun r => ⟨capitalize r.name, r.content.flatten⟩)
      ∧ (options.namespacePath ∈ o.file.imports ↔ opens)
      ∧ ('\n' ∉ options.namespacePath → '\t' ∉ options.namespacePath →
        ((options.namespacePath ∈ o.file.imports →
            options.escapeCall <:+: Go.indentBody o.file.body)
          ↔ (opens → ∃ l ∈ v.body, options.escapeCall <:+: l))
        ∧ (opens → options.escapeCall <:+: Go.indentBody o.file.body
          ∨ options.escapeCall <:+: job.divertedText root
          ∨ ∃ r ∈ v.blocks ++ v.sections, ∃ l ∈ r.lines, options.escapeCall <:+: l)) := by
  intro job opens
  have hok : job.compile root = .ok o := h
  have himport : options.namespacePath ∈ o.file.imports ↔ opens :=
    Job.import_iff_opens hok hdeclared hbytes
  obtain ⟨d₀, ⟨body, ss⟩, hopened, hregions, rfl⟩ := Job.exists_of_compile hok
  obtain ⟨d, hvisit, hparts, -⟩ := Job.visit_of_opened hopened
  have hlines := lineSpans_flatten_of_sublist (regionLines_sublist hregions).1
  have hcall := Job.call_isInfix hopened
  rw [← hparts] at hregions hcall
  obtain ⟨v, rfl, rfl⟩ := division_of_regionLines hregions
  refine ⟨d, v, hvisit, rfl, List.map_map, himport, fun hn ht => ?_⟩
  -- the call has no line feed and no tab in it, so indentation is of no account
  have hfunction : options.escapeCall <:+: Go.indentBody v.body.flatten
      ↔ ∃ l ∈ v.body, options.escapeCall <:+: l := by
    rw [infix_indentBody_iff options.getLast?_escapeCall (Options.not_mem_escapeCall hn (by decide))
      (Options.not_mem_escapeCall ht (by decide)), hlines]
  refine ⟨?_, fun hopens => ?_⟩
  · rw [himport]
    exact imp_congr_right fun _ => hfunction
  · rcases hcall hopens with hdiverted | hbody
    · exact .inr (.inl hdiverted)
    · obtain ⟨l, hl, hw⟩ := infix_line_of_infix (Options.not_mem_escapeCall hn (by decide))
        (List.ne_nil_of_length_pos (Nat.lt_of_succ_lt options.length_escapeCall)) hbody
      rcases v.mem_or hl with hl | ⟨r, hr, hl⟩
      · exact .inl (hfunction.2 ⟨l, hl, hw⟩)
      · exact .inr (.inr ⟨r, hr, l, hl, hw⟩)

/-- An interpolated name. -/
def interpolated (name : Text) : Node :=
  .markup [.node (.expression [] [.token ⟨.other "IDENTIFIER".toList, name⟩])]

/-- Declarations, an interpolation, and another one in a block. -/
def pageWithBlock : Node :=
  .program [
    .control [] [.token ⟨.other "CONTENT".toList, "import \"fmt\"".toList⟩],
    interpolated "x".toList,
    .control [] [.token ⟨.other "CONTENT".toList, "block side \x7b".toList⟩],
    interpolated "y".toList,
    .control [] [.token ⟨.other "CONTENT".toList, "\x7d".toList⟩]]

/-- What becomes of it: one call is left, and the import is for it. -/
def pageWithBlockOutput : Output where
  file :=
    { package := "tpl".toList
      imports := ["\"bytes\"".toList, "\"fmt\"".toList,
        "\"github.com/codinl/gotpl/gotpl\"".toList]
      function := "Index".toList
      params := []
      body := "_buffer.WriteString(gotpl.HTMLEscape(x))\n".toList
      sections := [] }
  layout := none

/-- The call outside the block stands in the function, and the import is for it. -/
theorem pageWithBlock_uses_import :
    compile ⟨"views/index.gohtml".toList, pageWithBlock⟩ {} = .ok pageWithBlockOutput ∧
    ∃ (d : Draft) (v : Division (lineSpans d.parts.flatten)),
      (Job.ofPath "views/index.gohtml".toList {}).visit none pageWithBlock
        (Draft.start (Job.ofPath "views/index.gohtml".toList {})) = .ok d
      ∧ pageWithBlockOutput.file.body = v.body.flatten
      ∧ ((({} : Options).namespacePath ∈ pageWithBlockOutput.file.imports →
            ({} : Options).escapeCall <:+: Go.indentBody pageWithBlockOutput.file.body)
          ↔ ((∃ l ∈ (Job.ofPath "views/index.gohtml".toList {}).walkedLeaves pageWithBlock,
              l.escapes = true) → ∃ l ∈ v.body, ({} : Options).escapeCall <:+: l)) := by
  have hok : compile ⟨"views/index.gohtml".toList, pageWithBlock⟩ {} = .ok pageWithBlockOutput := by
    decide +kernel
  have hds : parseDeclarations
      ((Job.ofPath "views/index.gohtml".toList {}).divertedText pageWithBlock)
        = .ok [.importing ⟨none, "\"fmt\"".toList⟩] := by
    decide +kernel
  have hdeclared : ∀ ds, parseDeclarations
      ((Job.ofPath "views/index.gohtml".toList {}).divertedText pageWithBlock) = .ok ds →
      ∀ i : Import, .importing i ∈ ds → i.effect.spec ≠ ({} : Options).namespacePath := by
    intro ds hds' i hi
    rw [hds] at hds'
    cases hds'
    cases List.mem_singleton.1 hi
    decide
  obtain ⟨d, v, hvisit, hbody, -, -, hexact⟩ := escape_import_exact hok hdeclared (by decide)
  exact ⟨hok, d, v, hvisit, hbody, (hexact (by decide) (by decide)).1⟩

/-- Markup, and an interpolation inside a block. -/
def blockOnly : Node :=
  .program [
    .markup [.token ⟨.other "CONTENT".toList, "<p>".toList⟩],
    .control [] [.token ⟨.other "CONTENT".toList, "block side \x7b".toList⟩,
      .node (interpolated "x".toList), .token ⟨.other "CONTENT".toList, "\x7d".toList⟩]]

/-- What becomes of it: the block is gone and the import is not. -/
def blockOnlyOutput : Output where
  file :=
    { package := "tpl".toList
      imports := ["\"bytes\"".toList, "\"github.com/codinl/gotpl/gotpl\"".toList]
      function := "Base".toList
      params := []
      body := "_buffer.WriteString(\"<p>\")\n".toList
      sections := [] }
  layout := none

/-- A block leaves an import behind that nothing uses. -/
theorem block_leaves_import :
    compile ⟨"views/layout/base.gohtml".toList, blockOnly⟩ {} = .ok blockOnlyOutput ∧
    parseDeclarations
      ((Job.ofPath "views/layout/base.gohtml".toList {}).divertedText blockOnly) = .ok [] ∧
    ({} : Options).namespacePath ≠ bytesImport ∧
    ({} : Options).namespacePath ∈ blockOnlyOutput.file.imports ∧
    ¬ ({} : Options).escapeCall <:+: Go.indentBody blockOnlyOutput.file.body := by
  refine ⟨?_, ?_, ?_, ?_, ?_⟩ <;> decide +kernel

end GoTemplate
