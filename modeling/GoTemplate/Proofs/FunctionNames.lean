/-
  The functions of a generated file, by name.

  A file declares the template's function and one function per section.  Sections with one name are
  refused, so among THEM no name stands twice (`Sectioning.distinct`).  The template's function has
  its name from the path, and nothing compares the two: a template `index` with a section `index`
  yields a file with two functions `Index` (`section_takes_function_name`).

  So a file declares a function twice exactly if some section region bears the function's name once
  it is capitalised (`functions_nodup_iff`).  A capitalised name never begins with a small ASCII
  letter (`isLower_of_mem_capitalize`), so a template whose name is kept and begins with one is
  safe, whatever is in it.
-/
import GoTemplate.Compile
import GoTemplate.Proofs.RegionStability

namespace GoTemplate

/-! ## Capitals -/

theorem isLower_iff (c : Char) : c.isLower = true ↔ 0x61 ≤ c.toNat ∧ c.toNat ≤ 0x7a := by
  show (decide (c.val ≥ 'a'.val) && decide (c.val ≤ 'z'.val)) = true ↔ _
  rw [Bool.and_eq_true, decide_eq_true_eq, decide_eq_true_eq, ge_iff_le, UInt32.le_iff_toNat_le,
    UInt32.le_iff_toNat_le]
  rfl

theorem isLower_ofNat {n : Nat} (h : (Char.ofNat n).isLower = true) : 0x61 ≤ n ∧ n ≤ 0x7a := by
  by_cases hvalid : n.isValidChar
  · have hchar : Char.ofNat n = Char.ofNatAux n hvalid := dif_pos hvalid
    rw [hchar, isLower_iff] at h
    exact h
  · have hchar : Char.ofNat n = Char.ofNat 0 := dif_neg hvalid
    rw [hchar] at h
    cases h

/-- **No capital is a small ASCII letter.** -/
theorem upper_eq_cons (c : Char) : ∃ u us, upper c = u :: us ∧ u.isLower = false := by
  have hexpansions : ∀ e ∈ caseExpansions,
      e.2 ≠ [] ∧ ∀ n ∈ e.2.head?, ¬ (0x61 ≤ n ∧ n ≤ 0x7a) := by decide +kernel
  have hruns : ∀ r ∈ caseRuns, r.capital + (r.last - r.first) < 0x61 ∨ 0x7a < r.capital := by
    decide +kernel
  rw [upper]
  split
  · next ns hns =>
    obtain ⟨front, back, htable, -⟩ := List.lookup_eq_some_iff.1 hns
    have hmem : (c.toNat, ns) ∈ caseExpansions := by
      rw [htable]
      exact List.mem_append_right front List.mem_cons_self
    obtain ⟨hne, hhead⟩ := hexpansions _ hmem
    obtain ⟨n, ns, rfl⟩ := List.exists_cons_of_ne_nil hne
    exact ⟨_, _, List.map_cons, eq_false_of_ne_true fun h => hhead n rfl (isLower_ofNat h)⟩
  · split
    · next n hn =>
      refine ⟨_, _, rfl, eq_false_of_ne_true fun h => ?_⟩
      obtain ⟨r, hr, hcap⟩ := List.exists_of_findSome?_eq_some hn
      have hletter := isLower_ofNat h
      have hrange := hruns r hr
      rw [CaseRun.capital?] at hcap
      split at hcap
      · next hin =>
        cases hcap
        simp only [Bool.and_eq_true, decide_eq_true_eq] at hin
        omega
      · cases hcap
    · next hnone =>
      -- a small letter would be in the first run
      refine ⟨_, _, rfl, eq_false_of_ne_true fun h => ?_⟩
      have hfirst := List.findSome?_eq_none_iff.1 hnone ⟨0x61, 0x7a, 1, 0x41⟩ List.mem_cons_self
      obtain ⟨hge, hle⟩ := (isLower_iff c).1 h
      simp [CaseRun.capital?, hge, hle, Nat.mod_one] at hfirst

theorem isLower_of_mem_capitalize (name : Text) :
    ∀ u ∈ (capitalize name).head?, u.isLower = false := by
  intro u hu
  cases name with
  | nil => cases hu
  | cons c t =>
    obtain ⟨v, vs, hv, hlower⟩ := upper_eq_cons c
    rw [capitalize, hv, List.cons_append] at hu
    cases hu
    exact hlower

/-! ## A compilation that succeeds -/

/-- The walk and both passes, taken apart. -/
theorem Job.passes_of_compile {job : Job} {root : Node} {o : Output}
    (h : job.compile root = .ok o) :
    ∃ d stripped, job.visit none root (Draft.start job) = .ok d
      ∧ stripBlocks job.template d.parts.flatten = .ok stripped
      ∧ extractSections job.template stripped = .ok (o.file.body, o.file.sections)
      ∧ o.file.function = job.name := by
  rw [Job.compile] at h
  cases hd : job.visit none root (Draft.start job) with
  | error e =>
    rw [hd] at h
    cases h
  | ok d =>
    rw [hd] at h
    cases hs : stripBlocks job.template d.parts.flatten with
    | error e =>
      simp only [hs] at h
      cases h
    | ok stripped =>
      cases hp : extractSections job.template stripped with
      | error e =>
        simp only [hs, bind, Except.bind, hp] at h
        cases h
      | ok p =>
        simp only [hs, bind, Except.bind, hp] at h
        cases h
        exact ⟨d, stripped, rfl, hs, hp, rfl⟩

/-! ## Functions -/

/-- The names of the functions that a file declares, in order. -/
def Go.File.functions (f : Go.File) : List Text := f.function :: f.sections.map Section.name

/-- **When no function is declared twice.**  Let a compilation succeed.  The file declares the
    function named after the template and one function for each section region of the body, under
    its capitalised name.  The sections have different names, so there is a name that stands twice
    exactly if a section has the function's; and never if that begins with a small ASCII letter. -/
theorem functions_nodup_iff {root : Node} {path : Text} {options : Options} {o : Output}
    (h : compile ⟨path, root⟩ options = .ok o) :
    let job := Job.ofPath path options
    ∃ (d : Draft) (v : Division (lineSpans d.parts.flatten)),
      job.visit none root (Draft.start job) = .ok d
      ∧ o.file.functions = job.name :: v.sections.map (fun r => capitalize r.name)
      ∧ (v.sections.map (fun r => capitalize r.name)).Nodup
      ∧ (o.file.functions.Nodup ↔ ∀ r ∈ v.sections, capitalize r.name ≠ job.name)
      ∧ ((∃ c ∈ job.name.head?, c.isLower = true) → o.file.functions.Nodup) := by
  intro job
  have hok : job.compile root = .ok o := h
  obtain ⟨d, stripped, hvisit, hstripped, hsections, hname⟩ := Job.passes_of_compile hok
  obtain ⟨blocks, hblocks⟩ := divided_of_stripBlocks hstripped
  obtain ⟨w, -, hw⟩ := exists_sectioning hsections
  let v : Division (lineSpans d.parts.flatten) :=
    ⟨blocks, lineSpans stripped, w.regions, w.kept, hblocks, w.divided⟩
  have hfunctions : o.file.functions = job.name :: v.sections.map (fun r => capitalize r.name) := by
    rw [Go.File.functions, hname, hw, Sectioning.sections, List.map_map]
    rfl
  have hdistinct : (v.sections.map (fun r => capitalize r.name)).Nodup := w.distinct
  have hiff : o.file.functions.Nodup ↔ ∀ r ∈ v.sections, capitalize r.name ≠ job.name := by
    rw [hfunctions, List.nodup_cons, and_iff_left hdistinct, List.mem_map]
    exact ⟨fun hnot r hr he => hnot ⟨r, hr, he⟩, fun hall ⟨r, hr, he⟩ => hall r hr he⟩
  refine ⟨d, v, hvisit, hfunctions, hdistinct, hiff, ?_⟩
  rintro ⟨c, hc, hlower⟩
  refine hiff.2 fun r _ he => ?_
  have hcapital := isLower_of_mem_capitalize r.name c (he ▸ hc)
  rw [hlower] at hcapital
  cases hcapital

/-- Markup and a section. -/
def pageWithSection (name : Text) : Node :=
  .program [
    .markup [.token ⟨.other "CONTENT".toList, "<p>".toList⟩],
    .control [] [.token ⟨.other "CONTENT".toList,
      "section ".toList ++ name ++ " \x7b\nhi\n\x7d".toList⟩]]

/-- What becomes of it, for a template with this function. -/
def pageWithSectionOutput (function name : Text) : Output where
  file :=
    { package := "tpl".toList
      imports := ["\"bytes\"".toList]
      function
      params := []
      body := "_buffer.WriteString(\"<p>\")\n".toList
      sections := [⟨name, "hi\n".toList⟩] }
  layout := none

/-- A kept name and a section that is spelt like it: the section is capitalised, the function is
    not. -/
theorem functions_nodup_keptName :
    compile ⟨"views/home/index.gohtml".toList, pageWithSection "index".toList⟩ { keepName := true }
        = .ok (pageWithSectionOutput "index".toList "Index".toList)
      ∧ (pageWithSectionOutput "index".toList "Index".toList).file.functions.Nodup := by
  have hok : compile ⟨"views/home/index.gohtml".toList, pageWithSection "index".toList⟩
      { keepName := true } = .ok (pageWithSectionOutput "index".toList "Index".toList) := by
    decide +kernel
  obtain ⟨d, v, -, -, -, -, hsmall⟩ := functions_nodup_iff hok
  exact ⟨hok, hsmall ⟨'i', by decide +kernel, by decide⟩⟩

/-- A section takes the name of the template's function. -/
theorem section_takes_function_name :
    compile ⟨"views/home/index.gohtml".toList, pageWithSection "index".toList⟩ {}
        = .ok (pageWithSectionOutput "Index".toList "Index".toList)
      ∧ ¬ (pageWithSectionOutput "Index".toList "Index".toList).file.functions.Nodup := by
  constructor <;> decide +kernel

end GoTemplate
