/-
  Where the imports of an output come from.

  An output imports the package of its buffer, what the declarations of its template ask for, and
  the escape package if some leaf opens a call of it.  There is no other source, and nothing that
  was required is ever dropped (`Job.mem_imports_iff`).  Leaves of the DIVERTED node count as well,
  although their text is read as declarations and never written.
-/
import GoTemplate.Proofs.Leaves

namespace GoTemplate

/-! ## Declarations and leaves -/

theorem Draft.mem_required_registerAll {template : Text} {d d' : Draft}
    {decls : List Declaration} (h : d.registerAll template decls = .ok d') (x : Text) :
    x ∈ d'.imports.required
      ↔ (∃ decl ∈ decls, decl.spec? = some x) ∨ x ∈ d.imports.required := by
  rw [(Draft.registered_of_registerAll h).imports, ImportSet.mem_required_foldl, List.mem_filterMap]

theorem Draft.mem_required_takeAll (job : Job) (d : Draft) (ls : List Leaf) (x : Text) :
    x ∈ (d.takeAll job ls).imports.required
      ↔ (x = job.options.namespacePath ∧ ∃ l ∈ ls, l.escapes = true) ∨ x ∈ d.imports.required := by
  rw [Draft.takeAll_imports, ← List.any_eq_true]
  by_cases h : ls.any Leaf.escapes = true
  · rw [if_pos h, ImportSet.mem_required_require]
    simp only [h, and_true]
  · rw [if_neg h]
    exact ⟨.inr, fun hx => hx.resolve_left fun hx => h hx.2⟩

/-! ## The diverted node -/

/-- The leaves of the diverted node. -/
def Job.divertedLeaves (job : Job) (root : Node) : List Leaf :=
  match root.diverted? with
  | none => []
  | some n => n.leaves job [] (some .program)

/-- The text that is read as declarations. -/
def Job.divertedText (job : Job) (root : Node) : Text := leavesText (job.divertedLeaves root)

/-- The draft before the body, whether there is a diverted node or not. -/
theorem Job.opened_eq (job : Job) (root : Node) :
    job.opened root = job.readDeclarations (job.divertedLeaves root) := by
  rw [Job.opened, Job.divertedLeaves]
  cases root.diverted? with
  | none => rfl
  | some n => rfl

theorem Job.mem_required_opened {job : Job} {root : Node} {d : Draft}
    (h : job.opened root = .ok d) (x : Text) :
    ∃ ds, parseDeclarations (job.divertedText root) = .ok ds ∧
      (x ∈ d.imports.required ↔ (∃ decl ∈ ds, decl.spec? = some x)
        ∨ (x = job.options.namespacePath ∧ ∃ l ∈ job.divertedLeaves root, l.escapes = true)) := by
  rw [job.opened_eq, Job.readDeclarations, Draft.declare, ← Job.divertedText] at h
  split at h
  · cases h
  · next ds hds =>
    refine ⟨ds, hds, ?_⟩
    have hfresh : x ∉ (Draft.fresh job).imports.required := List.not_mem_nil
    have htake := Draft.mem_required_takeAll job (Draft.fresh job) (job.divertedLeaves root) x
    rw [or_iff_left hfresh] at htake
    rw [Draft.mem_required_registerAll h, ← htake]
    rfl

/-! ## The output -/

/-- A compilation that succeeds, taken apart. -/
theorem Job.exists_of_compile {job : Job} {root : Node} {o : Output}
    (h : job.compile root = .ok o) : ∃ d lifted, job.opened root = .ok d
      ∧ regionLines job.template (lineSpans (leavesText (job.bodyLeaves root d))) = .ok lifted
      ∧ o = job.output (d.takeAll job (job.bodyLeaves root d)) lifted := by
  rw [job.compile_eq] at h
  split at h
  · nomatch h
  · next d hd =>
    obtain ⟨lifted, hl, rfl⟩ := exists_ok_of_map_ok h
    exact ⟨d, lifted, hd, hl, rfl⟩

/-- All leaves of a walk: those of the diverted node, and those of the body unless the
    declarations are refused. -/
def Job.walkedLeaves (job : Job) (root : Node) : List Leaf :=
  job.divertedLeaves root ++
    match job.opened root with
    | .ok d => job.bodyLeaves root d
    | .error _ => []

theorem Job.walkedLeaves_of_opened {job : Job} {root : Node} {d : Draft}
    (h : job.opened root = .ok d) :
    job.walkedLeaves root = job.divertedLeaves root ++ job.bodyLeaves root d := by
  rw [Job.walkedLeaves, h]

/-- **Where the imports of an output come from.** -/
theorem Job.mem_imports_iff {job : Job} {root : Node} {o : Output} (h : job.compile root = .ok o)
    (x : Text) : ∃ ds, parseDeclarations (job.divertedText root) = .ok ds ∧
      (x ∈ o.file.imports ↔ x = bytesImport ∨ (∃ decl ∈ ds, decl.spec? = some x) ∨
        (x = job.options.namespacePath ∧ ∃ l ∈ job.walkedLeaves root, l.escapes = true)) := by
  obtain ⟨d, lifted, hopened, -, rfl⟩ := Job.exists_of_compile h
  obtain ⟨ds, hds, hx⟩ := Job.mem_required_opened hopened x
  refine ⟨ds, hds, ?_⟩
  show x ∈ (ImportSet.require _ bytesImport).required ↔ _
  rw [ImportSet.mem_required_require, Draft.mem_required_takeAll, hx,
    Job.walkedLeaves_of_opened hopened]
  simp only [List.mem_append]
  constructor
  · rintro (hx | ⟨hx, l, hl, he⟩ | hx | ⟨hx, l, hl, he⟩)
    · exact .inl hx
    · exact .inr (.inr ⟨hx, l, .inr hl, he⟩)
    · exact .inr (.inl hx)
    · exact .inr (.inr ⟨hx, l, .inl hl, he⟩)
  · rintro (hx | hx | ⟨hx, l, hl | hl, he⟩)
    · exact .inl hx
    · exact .inr (.inr (.inl hx))
    · exact .inr (.inr (.inr ⟨hx, l, hl, he⟩))
    · exact .inr (.inl ⟨hx, l, hl, he⟩)

end GoTemplate
