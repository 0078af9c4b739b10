/-
  What holds of every declaration that a text spells out.

  The reader adds declarations in one place only, where a spec has been read; all else moves the
  group.  So a property of what a spec can yield is an INVARIANT of the reading: each step keeps
  it (`Reading.step_all`), hence a statement, a line and a text do (`parseDeclarations_all`).

  A draft takes declarations in one by one, and what comes of it is said once, for one and then for
  a list of them (`Draft.Registered`).
-/
import GoTemplate.Draft

namespace GoTemplate

/-- All declarations read so far have a property. -/
def Reading.All (P : Declaration → Prop) (r : Reading) : Prop := ∀ d ∈ r.decls, P d

/-- A property that every spec yields, in either kind of group. -/
def SpecsYield (P : Declaration → Prop) : Prop :=
  ∀ (g : Group) (t : Text) (ds : List Declaration), g.spec? t = some ds → ∀ d ∈ ds, P d

section

variable {P : Declaration → Prop}

theorem Reading.All.add {r : Reading} {ds : List Declaration} (hr : r.All P)
    (hds : ∀ d ∈ ds, P d) : (r.add ds).All P := by
  intro d hd
  rcases List.mem_append.1 hd with hd | hd
  · exact hr d hd
  · exact hds d hd

theorem Reading.openOrSpec_all (hP : SpecsYield P) {r r' : Reading} {g : Group} {t rest : Text}
    (hr : r.All P) (h : r.openOrSpec g t = some (r', rest)) : r'.All P := by
  rw [Reading.openOrSpec] at h
  split at h
  · cases h
    exact hr
  · obtain ⟨ds, hds, he⟩ := Option.map_eq_some_iff.1 h
    cases he
    exact hr.add (hP g t ds hds)

theorem Reading.topStep_all (hP : SpecsYield P) {r r' : Reading} {stmt rest : Text} (hr : r.All P)
    (h : r.topStep stmt = some (r', rest)) : r'.All P := by
  rw [Reading.topStep] at h
  split at h
  · exact Reading.openOrSpec_all hP hr h
  · split at h
    · exact Reading.openOrSpec_all hP hr h
    · split at h
      · cases h
        exact hr
      · obtain ⟨ds, hds, he⟩ := Option.map_eq_some_iff.1 h
        cases he
        exact hr.add (hP .imports stmt ds hds)

theorem Group.piece?_all (hP : SpecsYield P) {g : Group} {t : Text} {ds : List Declaration}
    (h : g.piece? t = some ds) : ∀ d ∈ ds, P d := by
  rw [Group.piece?] at h
  split at h
  · cases h
    exact fun d hd => absurd hd List.not_mem_nil
  · exact hP g (trim t) ds h

theorem Reading.groupStep_all (hP : SpecsYield P) {r r' : Reading} {g : Group} {stmt rest : Text}
    (hr : r.All P) (h : r.groupStep g stmt = some (r', rest)) : r'.All P := by
  rw [Reading.groupStep] at h
  split at h
  · obtain ⟨ds, hds, he⟩ := Option.map_eq_some_iff.1 h
    cases he
    exact hr.add (Group.piece?_all hP hds)
  · obtain ⟨ds, hds, he⟩ := Option.map_eq_some_iff.1 h
    cases he
    exact hr.add (Group.piece?_all hP hds)

/-- **One step** adds what specs yield. -/
theorem Reading.step_all (hP : SpecsYield P) {r r' : Reading} {stmt rest : Text} (hr : r.All P)
    (h : r.step stmt = some (r', rest)) : r'.All P := by
  rw [Reading.step] at h
  split at h
  · exact Reading.topStep_all hP hr h
  · exact Reading.groupStep_all hP hr h

theorem Reading.run_all (hP : SpecsYield P) {r r' : Reading} {stmt : Text} (hr : r.All P)
    (h : r.run stmt = some r') : r'.All P := by
  fun_induction Reading.run r stmt with
  | case1 r => cases h; exact hr
  | case2 r c t r₁ rest hstep ih => exact ih (Reading.step_all hP hr hstep) h
  | case3 r c t hstep => nomatch h

theorem Reading.line_all (hP : SpecsYield P) {r r' : Reading} {raw : Text} (hr : r.All P)
    (h : r.line raw = some r') : r'.All P := by
  rw [Reading.line] at h
  generalize statements raw = stmts at h
  induction stmts generalizing r with
  | nil => cases h; exact hr
  | cons stmt stmts ih =>
    rw [List.foldlM_cons] at h
    obtain ⟨r₁, hrun, hrest⟩ := Option.bind_eq_some_iff.1 h
    exact ih (Reading.run_all hP hr hrun) hrest

theorem Reading.lines_all (hP : SpecsYield P) {n : Nat} {r r' : Reading} {ls : List Text}
    (hr : r.All P) (h : Reading.lines n r ls = .ok r') : r'.All P := by
  induction ls generalizing n r with
  | nil => cases h; exact hr
  | cons raw rest ih =>
    rw [Reading.lines] at h
    split at h
    · next r₁ hline => exact ih (Reading.line_all hP hr hline) h
    · nomatch h

/-- **A whole text**: what every spec yields holds of every declaration. -/
theorem parseDeclarations_all (hP : SpecsYield P) {t : Text} {ds : List Declaration}
    (h : parseDeclarations t = .ok ds) : ∀ d ∈ ds, P d := by
  rw [parseDeclarations] at h
  split at h
  · nomatch h
  · next r hlines =>
    have hr : r.All P := Reading.lines_all hP (fun d hd => absurd hd List.not_mem_nil) hlines
    split at h
    · cases h
      exact hr
    · nomatch h

end

/-! ## Names -/

/-- A declaration that is no parameter without a name. -/
def Declaration.Named : Declaration → Prop
  | .importing _ => True
  | .param p => p.name ≠ []

theorem identifier?_ne_nil {t name rest : Text} (h : identifier? t = some (name, rest)) :
    name ≠ [] := by
  cases t with
  | nil => cases h
  | cons c t =>
    rw [identifier?] at h
    split at h
    · cases h
      exact List.cons_ne_nil _ _
    · cases h

theorem nextName?_ne_nil {t name rest : Text} (h : nextName? t = some (name, rest)) :
    name ≠ [] := by
  rw [nextName?] at h
  split at h
  · exact identifier?_ne_nil h
  · cases h

theorem namesAndType?_ne_nil {t ty : Text} {names : List Text}
    (h : namesAndType? t = some (names, ty)) : ∀ name ∈ names, name ≠ [] := by
  fun_induction namesAndType? t generalizing names ty with
  | case1 t name rest hnext names' ty' hrest ih =>
    cases h
    intro n hn
    rcases List.mem_cons.1 hn with rfl | hn
    · exact nextName?_ne_nil hnext
    · exact ih hrest n hn
  | case2 t name rest hnext hrest ih =>
    obtain ⟨_, _, he⟩ := Option.map_eq_some_iff.1 h
    cases he
    exact fun _ hn => absurd hn List.not_mem_nil
  | case3 t hnext =>
    obtain ⟨_, _, he⟩ := Option.map_eq_some_iff.1 h
    cases he
    exact fun _ hn => absurd hn List.not_mem_nil

theorem specsYield_named : SpecsYield Declaration.Named := by
  intro g t ds h d hd
  cases g with
  | imports =>
    obtain ⟨i, hi, rfl⟩ := Option.map_eq_some_iff.1 h
    obtain ⟨path, _, rfl⟩ := Option.map_eq_some_iff.1 hi
    rw [List.mem_singleton.1 hd]
    trivial
  | vars =>
    obtain ⟨⟨name, rest⟩, hname, h⟩ := Option.bind_eq_some_iff.1 h
    obtain ⟨⟨names, ty⟩, hnames, h⟩ := Option.bind_eq_some_iff.1 h
    cases h
    obtain ⟨n, hn, rfl⟩ := List.mem_map.1 hd
    show n ≠ []
    rcases List.mem_cons.1 hn with rfl | hn
    · exact identifier?_ne_nil hname
    · exact namesAndType?_ne_nil hnames n hn

/-! ## Declarations taken in -/

/-- The spec that an import requires. -/
def ImportEffect.spec : ImportEffect → Text
  | .plain spec => spec
  | .layout _ sideImport => sideImport

/-- The spec that a declaration requires, if it is an import. -/
def Declaration.spec? : Declaration → Option Text
  | .importing i => some i.effect.spec
  | .param _ => none

/-- The parameter that a declaration declares, if it declares one. -/
def Declaration.param? : Declaration → Option Param
  | .importing _ => none
  | .param p => some p

/-- What declarations do to the draft that takes them in, its layout apart: their parameters are
    appended and their specs required, in order. -/
structure Draft.Registered (d d' : Draft) (decls : List Declaration) : Prop where
  parts : d'.parts = d.parts
  firstNodeSeen : d'.firstNodeSeen = d.firstNodeSeen
  params : d'.params = d.params ++ decls.filterMap Declaration.param?
  imports : d'.imports = (decls.filterMap Declaration.spec?).foldl ImportSet.require d.imports

theorem Draft.Registered.nil (d : Draft) : d.Registered d [] where
  parts := rfl
  firstNodeSeen := rfl
  params := (List.append_nil d.params).symm
  imports := rfl

theorem Draft.Registered.append {d d₁ d₂ : Draft} {ds es : List Declaration}
    (h : d.Registered d₁ ds) (h' : d₁.Registered d₂ es) : d.Registered d₂ (ds ++ es) where
  parts := h'.parts.trans h.parts
  firstNodeSeen := h'.firstNodeSeen.trans h.firstNodeSeen
  params := by rw [h'.params, h.params, List.filterMap_append, List.append_assoc]
  imports := by rw [h'.imports, h.imports, List.filterMap_append, List.foldl_append]

theorem Draft.registered_of_register {template : Text} {d d' : Draft} {decl : Declaration}
    (h : d.register template decl = .ok d') : d.Registered d' [decl] := by
  cases decl with
  | param p =>
    cases h
    exact ⟨rfl, rfl, rfl, rfl⟩
  | importing i =>
    -- whichever effect the import has, its spec is required and no parameter comes
    have hrequired : ∀ layout : Option Text, d.Registered
        { d with imports := d.imports.require i.effect.spec, layout } [.importing i] :=
      fun _ => ⟨rfl, rfl, (List.append_nil d.params).symm, rfl⟩
    rw [Draft.register] at h
    split at h
    · next spec he =>
      cases h
      have hplain := hrequired d.layout
      rw [he] at hplain
      exact hplain
    · next name sideImport he =>
      split at h
      · cases h
      · cases h
        have hlayout := hrequired (some name)
        rw [he] at hlayout
        exact hlayout

/-- **What a list of declarations does to a draft.** -/
theorem Draft.registered_of_registerAll {template : Text} {d d' : Draft}
    {decls : List Declaration} (h : d.registerAll template decls = .ok d') :
    d.Registered d' decls := by
  induction decls generalizing d with
  | nil =>
    cases h
    exact .nil _
  | cons decl rest ih =>
    rw [Draft.registerAll] at h
    cases hr : d.register template decl with
    | error e => rw [hr] at h; nomatch h
    | ok d₁ =>
      rw [hr] at h
      exact (Draft.registered_of_register hr).append (ih h)

/-- Declared parameters have names. -/
theorem Draft.declare_named {template text : Text} {d d' : Draft}
    (h : d.declare template text = .ok d') (hd : ∀ p ∈ d.params, p.name ≠ []) :
    ∀ p ∈ d'.params, p.name ≠ [] := by
  intro p hp
  rw [Draft.declare] at h
  split at h
  · nomatch h
  · next decls hdecls =>
    rw [(Draft.registered_of_registerAll h).params] at hp
    rcases List.mem_append.1 hp with hp | hp
    · exact hd p hp
    · obtain ⟨decl, hdecl, hparam⟩ := List.mem_filterMap.1 hp
      cases decl with
      | importing i => cases hparam
      | param q =>
        cases hparam
        exact parseDeclarations_all specsYield_named hdecls (.param p) hdecl

end GoTemplate
