/-
  The region passes leave nothing behind.

  A pass keeps only lines that are no headers of its kind, and what it keeps are lines of what it
  read, unchanged and still apart: cutting its result into lines gives back the kept lines, also
  when the last of them has no line feed.  So one notion carries the file, a text that is FREE of
  headers of a kind:

  1. a text is left as it is by a pass exactly if it is free of headers of its kind
     (`stripBlocks_eq_self_iff`, `extractSections_eq_self_iff`), and the result of a pass is free;
  2. a text whose lines are lines of a free text is free (`HeaderFree.of_sublist`), so the second
     pass cannot bring back what the first removed, neither in the body nor in a section.
-/
import GoTemplate.Proofs.SectionGrammar

namespace GoTemplate

/-! ## Texts without headers -/

/-- No line of a text opens a region of a kind. -/
def HeaderFree (k : RegionKind) (t : Text) : Prop :=
  ∀ l ∈ lineSpans t, header? k.keyword (trim l) = none

theorem HeaderFree.of_sublist {k : RegionKind} {t u : Text} (h : HeaderFree k t)
    (hu : (lineSpans u).Sublist (lineSpans t)) : HeaderFree k u :=
  fun l hl => h l (hu.subset hl)

/-- A kept line is no header. -/
theorem Divided.header?_of_mem {k : RegionKind} {ls ks : List Text} {rs : List Region}
    (h : Divided k ls rs ks) : ∀ l ∈ ks, header? k.keyword (trim l) = none := by
  induction h with
  | nil => exact fun l hl => absurd hl List.not_mem_nil
  | keep hl _ ih =>
    intro l hmem
    rcases List.mem_cons.1 hmem with rfl | hmem
    · exact hl
    · exact ih l hmem
  | region _ _ _ ih => exact ih

/-! ## Blocks -/

/-- What is left of a body has the lines that the division into blocks keeps. -/
theorem divided_of_stripBlocks {template body s : Text} (h : stripBlocks template body = .ok s) :
    ∃ rs, Divided .blocks (lineSpans body) rs (lineSpans s) := by
  rw [stripBlocks, stripSpans_eq] at h
  obtain ⟨ks, hk, rfl⟩ := exists_ok_of_map_ok h
  obtain ⟨rs, hdiv⟩ := divided_of_keptLines hk
  refine ⟨rs, ?_⟩
  rwa [lineSpans_flatten_of_sublist hdiv.sublist]

theorem headerFree_of_stripBlocks {template body s : Text}
    (h : stripBlocks template body = .ok s) : HeaderFree .blocks s := by
  obtain ⟨rs, hdiv⟩ := divided_of_stripBlocks h
  exact hdiv.header?_of_mem

/-- **The texts that stripping blocks leaves as they are.** -/
theorem stripBlocks_eq_self_iff {template t : Text} :
    stripBlocks template t = .ok t ↔ HeaderFree .blocks t := by
  constructor
  · exact headerFree_of_stripBlocks
  · intro h
    rw [stripBlocks, stripSpans_eq, keptLines_of_no_header h]
    exact congrArg Except.ok (flatten_lineSpans t)

/-! ## Sections -/

/-- A body that is read has a sectioning, and is read by it. -/
theorem exists_sectioning {template body main : Text} {sections : List Section}
    (h : extractSections template body = .ok (main, sections)) :
    ∃ v : Sectioning (lineSpans body), main = v.rest ∧ sections = v.sections := by
  rcases sectioned_or_faulty template (lineSpans body) Sectioning.nil with ⟨⟨v⟩⟩ | ⟨e, hfault⟩
  · exact ⟨v, Prod.mk.inj (Except.ok.inj (h.symm.trans v.extractSections))⟩
  · rw [List.nil_append] at hfault
    rw [hfault.extractSections] at h
    cases h

theorem Sectioning.lineSpans_rest {t : Text} (v : Sectioning (lineSpans t)) :
    lineSpans v.rest = v.kept :=
  lineSpans_flatten_of_sublist v.divided.sublist

/-- A section has lines of the body it was lifted from. -/
theorem Sectioning.lineSpans_section {t : Text} (v : Sectioning (lineSpans t)) {s : Section}
    (hs : s ∈ v.sections) : (lineSpans s.body).Sublist (lineSpans t) := by
  obtain ⟨r, hr, rfl⟩ := List.mem_map.1 hs
  have hcontent := r.content_sublist.trans (v.divided.lines_sublist hr)
  rwa [lineSpans_flatten_of_sublist hcontent]

/-- **The texts that lifting sections leaves as they are.** -/
theorem extractSections_eq_self_iff {template t : Text} :
    extractSections template t = .ok (t, []) ↔ HeaderFree .sections t := by
  constructor
  · intro h
    obtain ⟨v, ht, -⟩ := exists_sectioning h
    have hlines := v.lineSpans_rest
    rw [← ht] at hlines
    rw [HeaderFree, hlines]
    exact v.divided.header?_of_mem
  · intro h
    rw [extractSections_eq, liftedLines_of_no_header h]
    exact congrArg (fun s => Except.ok (s, [])) (flatten_lineSpans t)

/-! ## Both passes -/

/-- **The two passes leave nothing behind and are stable.**  Where both succeed, no line of the body
    opens a block or a section and no line of a section opens a block.  Each pass, run once more on
    any of the results, changes nothing. -/
theorem regions_stable {template body stripped main : Text} {sections : List Section}
    (hstripped : stripBlocks template body = .ok stripped)
    (hmain : extractSections template stripped = .ok (main, sections)) :
    (∀ l ∈ lineSpans main, header? RegionKind.blocks.keyword (trim l) = none
        ∧ header? RegionKind.sections.keyword (trim l) = none)
      ∧ (∀ s ∈ sections, ∀ l ∈ lineSpans s.body, header? RegionKind.blocks.keyword (trim l) = none)
      ∧ stripBlocks template stripped = .ok stripped
      ∧ stripBlocks template main = .ok main
      ∧ extractSections template main = .ok (main, [])
      ∧ ∀ s ∈ sections, stripBlocks template s.body = .ok s.body := by
  have hfree : HeaderFree .blocks stripped := headerFree_of_stripBlocks hstripped
  obtain ⟨v, rfl, rfl⟩ := exists_sectioning hmain
  -- lines of the body and of the sections are lines of what the first pass left
  have hbody : HeaderFree .blocks v.rest :=
    hfree.of_sublist (v.lineSpans_rest ▸ v.divided.sublist)
  have hsections : ∀ s ∈ v.sections, HeaderFree .blocks s.body :=
    fun s hs => hfree.of_sublist (v.lineSpans_section hs)
  have hkept : HeaderFree .sections v.rest := by
    rw [HeaderFree, v.lineSpans_rest]
    exact v.divided.header?_of_mem
  exact ⟨fun l hl => ⟨hbody l hl, hkept l hl⟩, hsections, stripBlocks_eq_self_iff.2 hfree,
    stripBlocks_eq_self_iff.2 hbody, extractSections_eq_self_iff.2 hkept,
    fun s hs => stripBlocks_eq_self_iff.2 (hsections s hs)⟩

/-- A block with a section in it, a section with a section and a block in it, and a last line that
    has no line feed. -/
def nestedRegions : Text :=
  ("a\nblock x \x7b\nsection lost \x7b\n\x7d\n\x7d\nsection side \x7b\nsection in \x7b\n"
    ++ "block y \x7b\nb\n\x7d\n\x7d\n\x7d\nblock").toList

/-- The inner section header stays in the section, as content; the inner block is gone. -/
theorem regions_stable_nestedRegions :
    stripBlocks [] nestedRegions
        = .ok "a\nsection side \x7b\nsection in \x7b\n\x7d\n\x7d\nblock".toList
      ∧ extractSections [] "a\nsection side \x7b\nsection in \x7b\n\x7d\n\x7d\nblock".toList
        = .ok ("a\nblock".toList, [⟨"Side".toList, "section in \x7b\n\x7d\n".toList⟩])
      ∧ stripBlocks [] "a\nblock".toList = .ok "a\nblock".toList
      ∧ extractSections [] "a\nblock".toList = .ok ("a\nblock".toList, [])
      ∧ stripBlocks [] "section in \x7b\n\x7d\n".toList = .ok "section in \x7b\n\x7d\n".toList := by
  have hstripped : stripBlocks [] nestedRegions
      = .ok "a\nsection side \x7b\nsection in \x7b\n\x7d\n\x7d\nblock".toList := by
    decide +kernel
  have hmain : extractSections [] "a\nsection side \x7b\nsection in \x7b\n\x7d\n\x7d\nblock".toList
      = .ok ("a\nblock".toList, [⟨"Side".toList, "section in \x7b\n\x7d\n".toList⟩]) := by
    decide +kernel
  obtain ⟨-, -, -, hbody, hsections, hside⟩ := regions_stable hstripped hmain
  exact ⟨hstripped, hmain, hbody, hsections, hside _ List.mem_cons_self⟩

end GoTemplate
