/-
  Which imports name a layout.

  An import is a layout if its path, without its quotes and cut at every slash, has two segments or
  more and the last but one of them is `layout`.  The reader looks for slashes from the right
  instead; the two come to the same (`Import.effect_eq`).

  Over a list of declarations the layouts are counted with one equation
  (`Draft.layout_registerAll`): as long as nothing is refused, the layout of the draft, as a list of
  one or none, is the list of all layouts named so far.  So a list is taken in exactly if it names
  one at most, and a refusal names the first two.
-/
import GoTemplate.Proofs.FirstNode

namespace GoTemplate

/-! ## Layout imports -/

namespace Import

variable (i : Import)

/-- The path without its quotes. -/
def bare : Text := trimQuotes i.path

/-- The segments of the path. -/
def segments : List Text := i.bare.splitOn '/'

/-- Two segments or more, and the last but one is `layout`. -/
def IsLayout : Prop :=
  2 ≤ i.segments.length ∧ i.segments[i.segments.length - 2]? = some layoutSegment

instance : Decidable i.IsLayout := inferInstanceAs (Decidable (_ ∧ _))

/-- All segments but the last. -/
def parent : Text := ['/'].intercalate i.segments.dropLast

/-- The spec that the import asks for: itself, or the directory of the layout. -/
def asked : Text :=
  if i.IsLayout then Import.spec { i with path := '"' :: (i.parent ++ ['"']) } else i.spec

/-- **The effect of an import by its segments.** -/
theorem effect_eq : i.effect = if i.IsLayout then .layout i.bare i.asked else .plain i.asked := by
  by_cases hslash : '/' ∈ i.bare
  · obtain ⟨x, y, hbare, hy⟩ := exists_last_of_mem hslash
    have hsegments : i.segments = x.splitOn '/' ++ [y] := by
      rw [segments, hbare, splitOn_append hy]
    have hlength : 1 ≤ (x.splitOn '/').length :=
      List.length_pos_of_ne_nil (List.splitOn_ne_nil '/' x)
    have hlayout : i.IsLayout ↔ afterLast '/' x = layoutSegment := by
      have hindex : (x.splitOn '/' ++ [y]).length - 2 = (x.splitOn '/').length - 1 := by
        rw [List.length_append, List.length_singleton]
        omega
      have hsecond : i.segments[i.segments.length - 2]? = some (afterLast '/' x) := by
        rw [hsegments, hindex, List.getElem?_append_left (by omega), ← List.getLast?_eq_getElem?,
          getLast?_splitOn]
      rw [IsLayout, hsecond, hsegments, List.length_append, List.length_singleton,
        Option.some.injEq]
      exact and_iff_right (by omega)
    have hparent : i.parent = x := by
      rw [parent, hsegments, List.dropLast_concat, List.intercalate_splitOn]
    have hcut : cutLast? '/' (trimQuotes i.path) = some (x, y) := by
      show cutLast? '/' i.bare = _
      rw [hbare, cutLast?_append hy]
    simp only [effect, hcut, asked, hlayout, hparent]
    split
    · rfl
    · rfl
  · have hsegments : i.segments = [i.bare] := splitOn_of_not_mem hslash
    have hnot : ¬i.IsLayout := by
      rintro ⟨hlength, -⟩
      rw [hsegments, List.length_singleton] at hlength
      omega
    have hcut : cutLast? '/' (trimQuotes i.path) = none := cutLast?_of_not_mem hslash
    simp only [effect, hcut, asked, if_neg hnot]

theorem spec_effect : i.effect.spec = i.asked := by
  rw [i.effect_eq]
  split <;> rfl

theorem isLayout_of_effect {name side : Text} (h : i.effect = .layout name side) :
    i.IsLayout ∧ name = i.bare := by
  rw [i.effect_eq] at h
  split at h
  · next hlayout =>
    cases h
    exact ⟨hlayout, rfl⟩
  · cases h

end Import

/-! ## Layouts of a list -/

/-- The import of a declaration, if it is a layout. -/
def Declaration.layout? : Declaration → Option Import
  | .importing i => if i.IsLayout then some i else none
  | .param _ => none

/-- The layout imports of a list, in order. -/
def layoutImports (ds : List Declaration) : List Import := ds.filterMap Declaration.layout?

theorem layoutImports_append (ds es : List Declaration) :
    layoutImports (ds ++ es) = layoutImports ds ++ layoutImports es := List.filterMap_append

namespace Draft

variable {template : Text} {d d' : Draft}

/-- **One declaration** that is taken in puts its layout, if it has one, behind those there are. -/
theorem layout_register {decl : Declaration} (h : d.register template decl = .ok d') :
    d'.layout.toList = d.layout.toList ++ (layoutImports [decl]).map Import.bare := by
  cases decl with
  | param p =>
    cases h
    exact (List.append_nil _).symm
  | importing i =>
    rw [register, i.effect_eq] at h
    by_cases hlayout : i.IsLayout
    · have hone : layoutImports [.importing i] = [i] := by
        simp [layoutImports, Declaration.layout?, hlayout]
      rw [if_pos hlayout] at h
      cases hfirst : d.layout with
      | some first => simp only [hfirst] at h; cases h
      | none =>
        simp only [hfirst] at h
        cases h
        rw [hone]
        rfl
    · have hnone : layoutImports [.importing i] = [] := by
        simp [layoutImports, Declaration.layout?, hlayout]
      rw [if_neg hlayout] at h
      cases h
      rw [hnone]
      exact (List.append_nil _).symm

/-- **As long as nothing is refused, the layout is all layouts there are.** -/
theorem layout_registerAll {decls : List Declaration} (h : d.registerAll template decls = .ok d') :
    d'.layout.toList = d.layout.toList ++ (layoutImports decls).map Import.bare := by
  induction decls generalizing d with
  | nil =>
    cases h
    exact (List.append_nil _).symm
  | cons decl rest ih =>
    rw [registerAll] at h
    cases hstep : d.register template decl with
    | error halt => rw [hstep] at h; cases h
    | ok d₁ =>
      rw [hstep] at h
      have hcons : layoutImports (decl :: rest) = layoutImports [decl] ++ layoutImports rest :=
        layoutImports_append [decl] rest
      rw [ih h, layout_register hstep, hcons, List.map_append, List.append_assoc]

/-- A refusal names the first two layouts of the list. -/
theorem layouts_of_refused {decls : List Declaration} {halt : Halt} (hd : d.layout = none)
    (h : d.registerAll template decls = .error halt) :
    ∃ a b rest, layoutImports decls = a :: b :: rest
      ∧ halt.error = ⟨template, .duplicateLayout a.bare b.bare⟩ := by
  obtain ⟨before, i, after, first, second, side, rfl, heffect, hbefore, hfirst, herror⟩ :=
    refused_of_registerAll h
  obtain ⟨hlayout, rfl⟩ := i.isLayout_of_effect heffect
  have hnames := layout_registerAll hbefore
  rw [hd, hfirst] at hnames
  obtain ⟨a, ha, hbare⟩ := List.map_eq_singleton_iff.1 hnames.symm
  have hthis : layoutImports (.importing i :: after) = i :: layoutImports after := by
    simp [layoutImports, Declaration.layout?, hlayout]
  refine ⟨a, i, layoutImports after, ?_, ?_⟩
  · rw [layoutImports_append, ha, hthis]
    rfl
  · rw [herror, hbare]

end Draft

/-! ## The declarations of a first node -/

theorem Declaration.exists_asked_iff (ds : List Declaration) (x : Text) :
    (∃ decl ∈ ds, decl.spec? = some x) ↔ ∃ i, .importing i ∈ ds ∧ i.asked = x := by
  constructor
  · rintro ⟨decl, hmem, hspec⟩
    cases decl with
    | param p => cases hspec
    | importing i =>
      refine ⟨i, hmem, ?_⟩
      rw [← i.spec_effect]
      exact Option.some.inj hspec
  · rintro ⟨i, hmem, rfl⟩
    exact ⟨.importing i, hmem, congrArg some i.spec_effect⟩

/-- **Layout detection is exact.**  The declarations of a first node are taken in exactly if they
    name one layout at most; then the layout, the parameters and the required specs are those of the
    list, apart from the escape package.  Otherwise the error names the first two layouts. -/
theorem layout_detection_exact (job : Job) (enclosing : Option Mode) (tagName : Text)
    (children : List Child) (ds : List Declaration)
    (hparse : parseDeclarations
      (leavesText ((Node.control tagName children).leaves job [] enclosing)) = .ok ds) :
    ((∃ d, job.visit enclosing (.control tagName children) (Draft.start job) = .ok d)
        ↔ (layoutImports ds).length ≤ 1)
      ∧ (∀ d, job.visit enclosing (.control tagName children) (Draft.start job) = .ok d →
          d.layout = (layoutImports ds).head?.map Import.bare
            ∧ d.params = ds.filterMap Declaration.param?
            ∧ ∀ x, x ∈ d.imports.required ↔ (∃ i, .importing i ∈ ds ∧ i.asked = x)
                ∨ x = job.options.namespacePath
                  ∧ ∃ l ∈ (Node.control tagName children).leaves job [] enclosing, l.escapes = true)
      ∧ ∀ a b rest, layoutImports ds = a :: b :: rest →
          ∃ d, job.visit enclosing (.control tagName children) (Draft.start job)
            = .error ⟨⟨job.template, .duplicateLayout a.bare b.bare⟩, d⟩ := by
  let ls := (Node.control tagName children).leaves job [] enclosing
  let primed := (Draft.start job).primed job ls
  have hparse' : parseDeclarations (leavesText
      ((Node.control tagName children).leaves job (Draft.start job).params enclosing)) = .ok ds :=
    hparse
  have hvisit : job.visit enclosing (.control tagName children) (Draft.start job)
      = primed.registerAll job.template ds := by
    rw [job.visit_first enclosing tagName children rfl, Draft.declare, hparse']
    rfl
  have hnone : primed.layout = none := rfl
  rw [hvisit]
  cases hrun : primed.registerAll job.template ds with
  | error halt =>
    obtain ⟨a, b, rest, hlayouts, herror⟩ := Draft.layouts_of_refused hnone hrun
    rw [hlayouts]
    refine ⟨iff_of_false ?_ ?_, ?_, ?_⟩
    · rintro ⟨d, hd⟩
      cases hd
    · simp only [List.length_cons]
      omega
    · intro d hd
      cases hd
    · intro a' b' rest' hsame
      cases hsame
      exact ⟨halt.draft, congrArg Except.error (congrArg (Halt.mk · halt.draft) herror)⟩
  | ok d =>
    have hnames : d.layout.toList = (layoutImports ds).map Import.bare :=
      Draft.layout_registerAll hrun
    have hlength : (layoutImports ds).length ≤ 1 := by
      rw [← List.length_map Import.bare, ← hnames]
      exact Option.length_toList_le
    refine ⟨iff_of_true ⟨d, rfl⟩ hlength, ?_, ?_⟩
    · intro d' hd'
      cases hd'
      refine ⟨?_, (Draft.registered_of_registerAll hrun).params, fun x => ?_⟩
      · rw [← List.head?_map, ← hnames, Option.head?_toList]
      · have hstart : x ∉ (Draft.start job).imports.required := List.not_mem_nil
        have hescape := Draft.mem_required_takeAll job (Draft.start job) ls x
        rw [or_iff_left hstart] at hescape
        rw [Draft.mem_required_registerAll hrun, Declaration.exists_asked_iff, ← hescape]
        rfl
    · intro a b rest hlayouts
      rw [hlayouts, List.length_cons, List.length_cons] at hlength
      omega

/-- One layout among paths with slashes in odd places, and two layouts. -/
theorem layout_detection_odd_slashes :
    (∃ (job : Job) (children : List Child) (d : Draft),
      job.visit (some .program) (.control [] children) (Draft.start job) = .ok d
        ∧ d.layout = some "/app//layout/".toList ∧ d.params = [⟨"x".toList, "int".toList⟩]
        ∧ "l \"/app//layout\"".toList ∈ d.imports.required)
      ∧ ∃ (job : Job) (children : List Child) (d : Draft),
        job.visit (some .program) (.control [] children) (Draft.start job)
          = .error ⟨⟨job.template, .duplicateLayout "layout/a".toList "layout/b".toList⟩, d⟩ := by
  let job := Job.ofPath "home/index.gohtml".toList {}
  let one : List Child := [.token ⟨.other "CONTENT".toList,
    "import (\"layout\"; \"/layout/a/b\"; l \"/app//layout/\")\nvar x int".toList⟩]
  let two : List Child := [.token ⟨.other "CONTENT".toList,
    "import \"layout/a\"; import \"layout/b\"; import \"layout/c\"".toList⟩]
  have hone : parseDeclarations
      (leavesText ((Node.control [] one).leaves job [] (some .program)))
      = .ok [.importing ⟨none, "\"layout\"".toList⟩, .importing ⟨none, "\"/layout/a/b\"".toList⟩,
          .importing ⟨some "l".toList, "\"/app//layout/\"".toList⟩,
          .param ⟨"x".toList, "int".toList⟩] := by decide +kernel
  have htwo : parseDeclarations
      (leavesText ((Node.control [] two).leaves job [] (some .program)))
      = .ok [.importing ⟨none, "\"layout/a\"".toList⟩, .importing ⟨none, "\"layout/b\"".toList⟩,
          .importing ⟨none, "\"layout/c\"".toList⟩] := by decide +kernel
  refine ⟨?_, job, two, ?_⟩
  · obtain ⟨hiff, hok, -⟩ := layout_detection_exact job (some .program) [] one _ hone
    obtain ⟨d, hd⟩ := hiff.2 (by decide +kernel)
    obtain ⟨hlayout, hparams, hrequired⟩ := hok d hd
    refine ⟨job, one, d, hd, hlayout.trans (by decide +kernel), hparams, (hrequired _).2 (.inl ?_)⟩
    exact ⟨⟨some "l".toList, "\"/app//layout/\"".toList⟩, by decide, by decide +kernel⟩
  · obtain ⟨-, -, herror⟩ := layout_detection_exact job (some .program) [] two _ htwo
    exact herror ⟨none, "\"layout/a\"".toList⟩ ⟨none, "\"layout/b\"".toList⟩
      [⟨none, "\"layout/c\"".toList⟩] (by decide +kernel)

end GoTemplate
