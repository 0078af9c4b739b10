/-
  The imports of an output, exactly.

  Three sources: the package of the buffer, the import declarations of the diverted node, and the
  escape package.  The last is there because a declaration asks for it or because the TREE holds an
  expression that is escaped, and that can be told from the tree and the declared parameters alone
  (`EscapedAt`), without a walk.  The order is that of the bytes, and no spec stands twice.

  Nothing that happens to a set of imports on the way disturbs its order: it starts with one entry,
  and declarations and leaves only require (`Job.file_of_compile`).  The members are known leaf by
  leaf (`Job.mem_imports_iff`), and a leaf that opens a call has its place in the tree
  (`Job.opens_iff`).
-/
import GoTemplate.Proofs.ByteOrder
import GoTemplate.Proofs.EscapedPlaces

namespace GoTemplate

/-! ## Order -/

theorem Draft.ordered_takeAll {d : Draft} (job : Job) (hd : d.imports.Ordered) (ls : List Leaf) :
    (d.takeAll job ls).imports.Ordered := by
  rw [Draft.takeAll_imports]
  split
  · exact hd.require _
  · exact hd

theorem Draft.ordered_fresh (job : Job) : (Draft.fresh job).imports.Ordered :=
  ImportSet.Ordered.declare List.Pairwise.nil job.options.namespacePath

/-- The draft before the body has the declared parameters, and its imports in order. -/
theorem Job.opened_declares {job : Job} {root : Node} {d : Draft} {ds : List Declaration}
    (h : job.opened root = .ok d) (hds : parseDeclarations (job.divertedText root) = .ok ds) :
    d.params = ds.filterMap Declaration.param? ∧ d.imports.Ordered := by
  rw [job.opened_eq, Job.readDeclarations, Draft.declare, ← Job.divertedText, hds] at h
  have hregistered := Draft.registered_of_registerAll h
  constructor
  · rw [hregistered.params]
    show (Draft.takeAll job (Draft.fresh job) _).params ++ _ = _
    rw [Draft.takeAll_params]
    rfl
  · rw [hregistered.imports]
    exact (Draft.ordered_takeAll job (Draft.ordered_fresh job) (job.divertedLeaves root)).foldl _

/-! ## The output -/

/-- A file begins with its package clause and its import block. -/
theorem Go.File.front_isPrefix (f : Go.File) :
    "package ".toList ++ f.package ++ "\n\nimport (\n".toList
      ++ f.imports.flatMap (fun spec => '\t' :: (spec ++ ['\n'])) ++ ")\n\n".toList
    <+: f.render := by
  unfold Go.File.render
  generalize "package ".toList ++ f.package ++ "\n\nimport (\n".toList
    ++ f.imports.flatMap (fun spec => '\t' :: (spec ++ ['\n'])) ++ ")\n\n".toList = front
  simp only [List.append_assoc, List.prefix_append]

/-- The file of a compilation that succeeds: its parameters are those the body was walked with, and
    its imports are in order. -/
theorem Job.file_of_compile {job : Job} {root : Node} {o : Output} {ds : List Declaration}
    (h : job.compile root = .ok o) (hds : parseDeclarations (job.divertedText root) = .ok ds) :
    ∃ d, job.opened root = .ok d ∧ o.file.params = d.params
      ∧ d.params = ds.filterMap Declaration.param?
      ∧ o.file.imports.Pairwise (· < ·) ∧ o.file.package = job.options.package := by
  obtain ⟨d, lifted, hopened, -, rfl⟩ := Job.exists_of_compile h
  obtain ⟨hparams, hordered⟩ := Job.opened_declares hopened hds
  have htaken := Draft.ordered_takeAll job hordered (job.bodyLeaves root d)
  exact ⟨d, hopened, Draft.takeAll_params job d _, hparams, (htaken.require bytesImport).required,
    rfl⟩

/-- **The imports of an output are exact.**  Let a compilation succeed, and let `ds` be the
    declarations of its diverted node.  The imports increase in the order of their bytes; the import
    block lists them in this order, one in a line; and they are the package of the buffer, what the
    declared imports ask for, and the escape package if escaping is on and the tree holds an
    expression that is escaped. -/
theorem imports_exact {root : Node} {path : Text} {options : Options} {o : Output}
    (h : compile ⟨path, root⟩ options = .ok o) :
    ∃ ds, parseDeclarations ((Job.ofPath path options).divertedText root) = .ok ds
      ∧ o.file.params = ds.filterMap Declaration.param?
      ∧ (o.file.imports.map utf8).Pairwise (· < ·)
      ∧ "package ".toList ++ options.package ++ "\n\nimport (\n".toList
          ++ o.file.imports.flatMap (fun spec => '\t' :: (spec ++ ['\n'])) ++ ")\n\n".toList
        <+: o.source
      ∧ ∀ spec, spec ∈ o.file.imports ↔ spec = bytesImport
          ∨ (∃ i : Import, .importing i ∈ ds ∧ i.effect.spec = spec)
          ∨ (spec = options.namespacePath ∧ options.escape = true
            ∧ ∃ c : Context, EscapedAt (Job.ofPath path options).dir
                (if c.inDiverted then [] else o.file.params) .program root c) := by
  have hok : (Job.ofPath path options).compile root = .ok o := h
  obtain ⟨ds, hds, -⟩ := Job.mem_imports_iff hok bytesImport
  have hmem : ∀ spec, spec ∈ o.file.imports ↔ spec = bytesImport
      ∨ (∃ decl ∈ ds, decl.spec? = some spec)
      ∨ (spec = options.namespacePath
        ∧ ∃ l ∈ (Job.ofPath path options).walkedLeaves root, l.escapes = true) := by
    intro spec
    obtain ⟨ds', hds', hspec⟩ := Job.mem_imports_iff hok spec
    cases hds.symm.trans hds'
    exact hspec
  obtain ⟨d, hopened, hparams, hdeclared, hordered, hpackage⟩ := Job.file_of_compile hok hds
  refine ⟨ds, hds, hparams.trans hdeclared, ?_, ?_, fun spec => ?_⟩
  · rw [List.pairwise_map]
    exact hordered.imp utf8_lt_of_lt
  · have hfront := o.file.front_isPrefix
    rw [hpackage] at hfront
    exact hfront
  · -- a declaration that asks for a spec is an import
    have himports : (∃ decl ∈ ds, decl.spec? = some spec)
        ↔ ∃ i : Import, .importing i ∈ ds ∧ i.effect.spec = spec := by
      constructor
      · rintro ⟨decl, hdecl, hspec⟩
        cases decl with
        | param p => cases hspec
        | importing i => exact ⟨i, hdecl, Option.some.inj hspec⟩
      · rintro ⟨i, hi, rfl⟩
        exact ⟨_, hi, rfl⟩
    rw [hmem, himports, Job.opens_iff hopened, hparams]
    rfl

/-- A layout with a layout of its own: its parameter is written as it is, another name is
    escaped. -/
def titledLayout : Node :=
  .program [
    .control [] [.token ⟨.other "CONTENT".toList,
      "import (\n\"fmt\"\nl \"app/layout/main\"\n)\nvar title string".toList⟩],
    .markup [
      .node (.expression [] [.token ⟨.other "IDENTIFIER".toList, "title".toList⟩]),
      .node (.expression [] [.token ⟨.other "IDENTIFIER".toList, "user".toList⟩])]]

/-- What becomes of it. -/
def titledLayoutOutput : Output where
  file :=
    { package := "tpl".toList
      imports := ["\"bytes\"".toList, "\"fmt\"".toList,
        "\"github.com/codinl/gotpl/gotpl\"".toList, "l \"app/layout\"".toList]
      function := "Base".toList
      params := [⟨"title".toList, "string".toList⟩]
      body := "_buffer.WriteString((title))\n_buffer.WriteString(gotpl.HTMLEscape(user))\n".toList
      sections := [] }
  layout := some "app/layout/main".toList

/-- The escape package is among its imports and no declaration asks for it, so the tree holds an
    expression that is escaped. -/
theorem titledLayout_imports :
    compile ⟨"views/layout/base.gohtml".toList, titledLayout⟩ {} = .ok titledLayoutOutput
    ∧ (titledLayoutOutput.file.imports.map utf8).Pairwise (· < ·)
    ∧ ∃ c : Context, EscapedAt (Job.ofPath "views/layout/base.gohtml".toList {}).dir
        (if c.inDiverted then [] else titledLayoutOutput.file.params) .program titledLayout c := by
  have hok : compile ⟨"views/layout/base.gohtml".toList, titledLayout⟩ {}
      = .ok titledLayoutOutput := by
    decide +kernel
  have hds : parseDeclarations
      ((Job.ofPath "views/layout/base.gohtml".toList {}).divertedText titledLayout)
        = .ok [.importing ⟨none, "\"fmt\"".toList⟩,
            .importing ⟨some "l".toList, "\"app/layout/main\"".toList⟩,
            .param ⟨"title".toList, "string".toList⟩] := by
    decide +kernel
  obtain ⟨ds, hds', -, hordered, -, himports⟩ := imports_exact hok
  refine ⟨hok, hordered, ?_⟩
  rcases (himports ({} : Options).namespacePath).1 (by decide) with hb | ⟨i, hi, hspec⟩ | ⟨-, -, hc⟩
  · exact absurd hb (by decide)
  · rw [hds] at hds'
    cases hds'
    simp only [List.mem_cons, Declaration.importing.injEq, reduceCtorEq, List.not_mem_nil,
      or_false] at hi
    rcases hi with rfl | rfl
    · exact absurd hspec (by decide)
    · exact absurd hspec (by decide)
  · exact hc

end GoTemplate
