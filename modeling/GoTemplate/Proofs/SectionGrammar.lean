/-
  Sections are read by their grammar, and by nothing else.

  A SECTIONING of lines is a division into kept lines and section regions in which every header has
  a name and no two regions have the same name once it is capitalised.  `extractSections` succeeds
  exactly on the bodies whose lines have one, and then there is only one: the kept lines make up the
  rest, and the regions yield the sections, in order and verbatim.

  On all other bodies some prefix of the lines has a sectioning and the lines behind it cannot be
  joined to it: they begin with a nameless header, with a region whose name is taken, or with a
  header whose region is never closed.  That is the error (`FirstFault`), with the line of the
  header where it names one.

  The proof reads a sectioning off the lines from the left (`sectioned_or_faulty`) and runs the pass
  over a prefix that has one (`liftedLines_append`); the pass is a function, so the converse
  directions come for free.
-/
import GoTemplate.Proofs.RegionGrammar

namespace GoTemplate

/-! ## Headers -/

/-- A header is the keyword, a blank and a name or nothing at all, and an opening brace. -/
theorem header?_eq_some_iff (keyword line name : Text) :
    header? keyword line = some name ↔ ∃ inner, line = keyword ++ inner ++ ['\x7b']
      ∧ (∀ c ∈ inner.head?, isBlank c = true) ∧ name = trim inner := by
  constructor
  · intro h
    rw [header?] at h
    cases hb : (after? keyword line).bind (before? ['\x7b']) with
    | none => rw [hb] at h; cases h
    | some inner =>
      obtain ⟨rest, hafter, hbefore⟩ := Option.bind_eq_some_iff.1 hb
      have hline : line = keyword ++ inner ++ ['\x7b'] := by
        rw [eq_append_of_after? hafter, eq_append_of_before? hbefore, List.append_assoc]
      rw [hb] at h
      cases inner with
      | nil => cases h; exact ⟨[], hline, by simp, rfl⟩
      | cons c inner =>
        simp only at h
        split at h
        · next hc =>
          cases h
          exact ⟨c :: inner, hline, fun _ hd => Option.some.inj hd ▸ hc, rfl⟩
        · cases h
  · rintro ⟨inner, rfl, hblank, rfl⟩
    rw [header?, List.append_assoc, after?_append, Option.bind_some, before?_append]
    cases inner with
    | nil => rfl
    | cons c inner => simp only [hblank c rfl, if_true]

/-! ## Sectionings -/

/-- The name of the section that a region yields. -/
def Region.sectionName (r : Region) : Text := capitalize r.name

/-- Lines divided into sections with names of their own and lines that are kept. -/
structure Sectioning (ls : List Text) where
  regions : List Region
  kept : List Text
  divided : Divided .sections ls regions kept
  named : ∀ r ∈ regions, r.name ≠ []
  distinct : (regions.map Region.sectionName).Nodup

namespace Sectioning

variable {ls : List Text}

/-- The names of the sections. -/
def names (v : Sectioning ls) : List Text := v.regions.map Region.sectionName

/-- The kept lines as one text. -/
def rest (v : Sectioning ls) : Text := v.kept.flatten

/-- The sections: the names, and the lines between header and closing line as they are. -/
def sections (v : Sectioning ls) : List Section :=
  v.regions.map fun r => ⟨r.sectionName, r.content.flatten⟩

theorem unique (v w : Sectioning ls) : w = v := by
  obtain ⟨regions, kept, hdiv, _, _⟩ := v
  obtain ⟨regions', kept', hdiv', _, _⟩ := w
  obtain ⟨rfl, rfl⟩ := hdiv.unique hdiv'
  rfl

/-- No lines. -/
def nil : Sectioning [] := ⟨[], [], .nil, nofun, .nil⟩

/-- One more line that is kept. -/
def keep (v : Sectioning ls) {l : Text}
    (hl : header? RegionKind.sections.keyword (trim l) = none) : Sectioning (ls ++ [l]) where
  regions := v.regions
  kept := v.kept ++ [l]
  divided := by
    have hdiv := v.divided.append (.keep hl .nil)
    rwa [List.append_nil] at hdiv
  named := v.named
  distinct := v.distinct

/-- One more section, under a name that is not taken. -/
def lift (v : Sectioning ls) {r : Region}
    (hheader : header? RegionKind.sections.keyword (trim r.header) = some r.name)
    (henc : Encloses 1 r.content r.closer) (hname : r.name ≠ []) (hnew : r.sectionName ∉ v.names) :
    Sectioning (ls ++ r.lines) where
  regions := v.regions ++ [r]
  kept := v.kept
  divided := by
    have hdiv := v.divided.append (.region hheader henc .nil)
    rwa [List.append_nil, List.append_nil] at hdiv
  named := by
    intro r' hr'
    rcases List.mem_append.1 hr' with hr' | hr'
    · exact v.named r' hr'
    · rw [List.mem_singleton.1 hr']; exact hname
  distinct := by
    rw [List.map_append, List.map_singleton, List.nodup_append]
    refine ⟨v.distinct, List.pairwise_singleton _ _, fun name hname name' hname' he => hnew ?_⟩
    rwa [← List.mem_singleton.1 hname', ← he]

end Sectioning

/-! ## Faults -/

/-- The first fault of lines that have no sectioning: what stands behind a prefix that has one. -/
inductive FirstFault (template : Text) : List Text → CompileError → Prop
  /-- A header without a name. -/
  | nameless {front rest : List Text} {l : Text} (v : Sectioning front) :
      header? RegionKind.sections.keyword (trim l) = some [] →
      FirstFault template (front ++ l :: rest) ⟨template, .emptySectionName (front.length + 1)⟩
  /-- A region whose name is taken. -/
  | duplicate {front rest : List Text} {r : Region} (v : Sectioning front) :
      header? RegionKind.sections.keyword (trim r.header) = some r.name →
      Encloses 1 r.content r.closer → r.name ≠ [] → r.sectionName ∈ v.names →
      FirstFault template (front ++ (r.lines ++ rest)) ⟨template, .duplicateSection r.sectionName⟩
  /-- A header whose region is never closed. -/
  | unclosed {front rest : List Text} {l name : Text} (v : Sectioning front) :
      header? RegionKind.sections.keyword (trim l) = some name → name ≠ [] → StaysOpen 1 rest →
      FirstFault template (front ++ l :: rest)
        ⟨template, .unbalancedRegion .sections (capitalize name) (front.length + 1)⟩

/-- **Every list of lines has a sectioning or a first fault**, here behind a prefix that has a
    sectioning. -/
theorem sectioned_or_faulty (template : Text) : ∀ (tail : List Text) {front : List Text},
    Sectioning front → Nonempty (Sectioning (front ++ tail))
      ∨ ∃ e, FirstFault template (front ++ tail) e
  | [], _, v => .inl ⟨by rw [List.append_nil]; exact v⟩
  | l :: tail, front, v => by
    cases hh : header? RegionKind.sections.keyword (trim l) with
    | none =>
      have hrest := sectioned_or_faulty template tail (v.keep hh)
      rwa [List.append_assoc, List.singleton_append] at hrest
    | some name =>
      by_cases hname : name = []
      · subst hname
        exact .inr ⟨_, .nameless v hh⟩
      · rcases encloses_or_staysOpen 1 tail with ⟨content, closer, ms, rfl, henc⟩ | hopen
        · let r : Region := ⟨l, name, content, closer⟩
          have hlines : front ++ l :: (content ++ closer :: ms) = front ++ (r.lines ++ ms) := by
            simp [r, Region.lines]
          rw [hlines]
          by_cases htaken : r.sectionName ∈ v.names
          · exact .inr ⟨_, .duplicate v hh henc hname htaken⟩
          · rw [← List.append_assoc]
            exact sectioned_or_faulty template ms (v.lift hh henc hname htaken)
        · exact .inr ⟨_, .unclosed v hh hname hopen⟩
termination_by tail => tail.length

/-! ## The pass -/

/-- With a region open, the pass runs to the line that closes it. -/
theorem liftedLines_encloses (template : Text) (n : Nat) (seen before : List Text) {r : OpenRegion}
    (hr : 1 ≤ r.level) {content : List Text} {closer : Text}
    (henc : Encloses r.level content closer) (rest : List Text) :
    liftedLines template n seen (some (r, before)) (content ++ closer :: rest)
      = if seen.contains r.name then .error ⟨template, .duplicateSection r.name⟩
        else (liftedLines template (n + content.length + 1) (r.name :: seen) none rest).map
          fun (ks, ss) => (ks, (r.name, before ++ content) :: ss) := by
  induction content generalizing n r before with
  | nil =>
    cases henc with
    | close hl =>
      rw [List.nil_append, liftedLines, OpenRegion.next?_eq hr, if_pos hl, List.append_nil]
      rfl
  | cons l content ih =>
    cases henc with
    | content hl henc =>
      have hrest := ih (n + 1) (before ++ [l]) (r := { r with level := levelAfter r.level l })
        (Nat.one_le_iff_ne_zero.2 hl) henc
      rw [List.cons_append, liftedLines, OpenRegion.next?_eq hr, if_neg hl]
      simp only [hrest, List.append_assoc, List.singleton_append, List.length_cons]
      rw [show n + 1 + content.length + 1 = n + (content.length + 1) + 1 by omega]

/-- A region that stays open is reported at the end. -/
theorem liftedLines_staysOpen (template : Text) (n : Nat) (seen before : List Text)
    {r : OpenRegion} (hr : 1 ≤ r.level) {ls : List Text} (hopen : StaysOpen r.level ls) :
    liftedLines template n seen (some (r, before)) ls
      = .error ⟨template, .unbalancedRegion .sections r.name r.line⟩ := by
  induction ls generalizing n r before with
  | nil => rfl
  | cons l ls ih =>
    cases hopen with
    | cons hl hopen =>
      rw [liftedLines, OpenRegion.next?_eq hr, if_neg hl]
      exact ih (n + 1) (before ++ [l]) (r := { r with level := levelAfter r.level l })
        (Nat.one_le_iff_ne_zero.2 hl) hopen

/-- A named header opens a region. -/
theorem liftedLines_header (template : Text) (n : Nat) (seen : List Text) {l name : Text}
    (hl : header? RegionKind.sections.keyword (trim l) = some name) (hname : name ≠ [])
    (rest : List Text) :
    liftedLines template n seen none (l :: rest)
      = liftedLines template (n + 1) seen (some (⟨capitalize name, n, 1⟩, [])) rest := by
  obtain ⟨c, t, rfl⟩ := List.exists_cons_of_ne_nil hname
  rw [liftedLines, hl]

/-- **Over a prefix with a sectioning the pass goes on with what is behind it**, the line number
    and the names taken moved on. -/
theorem liftedLines_append (template : Text) {front ks : List Text} {rs : List Region}
    (hdiv : Divided .sections front rs ks) (hnamed : ∀ r ∈ rs, r.name ≠ []) (n : Nat)
    (seen : List Text) (hdistinct : (rs.map Region.sectionName).Nodup)
    (hfresh : ∀ r ∈ rs, r.sectionName ∉ seen) (rest : List Text) :
    liftedLines template n seen none (front ++ rest)
      = (liftedLines template (n + front.length) ((rs.map Region.sectionName).reverse ++ seen) none
          rest).map fun (ks', ss) => (ks ++ ks', rs.map Region.lifted ++ ss) := by
  induction hdiv generalizing n seen with
  | nil =>
    show liftedLines template n seen none rest = (liftedLines template n seen none rest).map id
    cases liftedLines template n seen none rest <;> rfl
  | @keep l ls ks rs hl _ ih =>
    rw [List.cons_append, liftedLines, hl]
    simp only [ih hnamed (n + 1) seen hdistinct hfresh, List.length_cons]
    rw [show n + 1 + ls.length = n + (ls.length + 1) by omega]
    cases liftedLines template (n + (ls.length + 1))
      ((rs.map Region.sectionName).reverse ++ seen) none rest <;> rfl
  | @region r ls ks rs hl henc _ ih =>
    obtain ⟨hnew, hdistinct⟩ := List.nodup_cons.1 hdistinct
    have hfresh' : ∀ r' ∈ rs, r'.sectionName ∉ r.sectionName :: seen := by
      intro r' hr' hmem
      rcases List.mem_cons.1 hmem with he | hmem
      · exact hnew (he ▸ List.mem_map_of_mem hr')
      · exact hfresh r' (List.mem_cons_of_mem r hr') hmem
    have hlines : r.lines ++ ls ++ rest
        = r.header :: (r.content ++ r.closer :: (ls ++ rest)) := by simp [Region.lines]
    have hlength : (r.lines ++ ls).length = r.content.length + 2 + ls.length := by
      simp [Region.lines]
      omega
    have hregion := liftedLines_encloses template (n + 1) seen [] (r := ⟨r.sectionName, n, 1⟩)
      (Nat.le_refl 1) henc (ls ++ rest)
    rw [if_neg fun h => hfresh r List.mem_cons_self (List.contains_iff_mem.1 h)] at hregion
    rw [hlines, liftedLines_header template n seen hl (hnamed r List.mem_cons_self)]
    refine hregion.trans ?_
    rw [ih (fun r' hr' => hnamed r' (List.mem_cons_of_mem r hr')) _ _ hdistinct hfresh', hlength]
    rw [show n + 1 + r.content.length + 1 + ls.length = n + (r.content.length + 2 + ls.length) by
      omega]
    simp only [List.map_cons, List.reverse_cons, List.append_assoc, List.singleton_append]
    cases liftedLines template (n + (r.content.length + 2 + ls.length))
      ((rs.map Region.sectionName).reverse ++ r.sectionName :: seen) none rest <;> rfl

/-- The pass behind the lines of a sectioning. -/
theorem Sectioning.liftedLines_append {front : List Text} (v : Sectioning front) (template : Text)
    (rest : List Text) :
    liftedLines template 1 [] none (front ++ rest)
      = (liftedLines template (front.length + 1) v.names.reverse none rest).map
          fun (ks, ss) => (v.kept ++ ks, v.regions.map Region.lifted ++ ss) := by
  have happend := GoTemplate.liftedLines_append template v.divided v.named 1 [] v.distinct
    (fun _ _ => List.not_mem_nil) rest
  rwa [List.append_nil, Nat.add_comm] at happend

/-! ## Reading a body -/

theorem extractSections_eq (template body : Text) :
    extractSections template body = (liftedLines template 1 [] none (lineSpans body)).map glue :=
  liftSpans_eq template 1 [] none (lineSpans body)

/-- A body whose lines have a sectioning is read by it. -/
theorem Sectioning.extractSections {template body : Text} (v : Sectioning (lineSpans body)) :
    extractSections template body = .ok (v.rest, v.sections) := by
  have happend := v.liftedLines_append template []
  rw [List.append_nil] at happend
  rw [extractSections_eq, happend]
  show Except.ok (glue (v.kept ++ [], v.regions.map Region.lifted ++ [])) = _
  rw [List.append_nil, List.append_nil, glue, List.map_map]
  rfl

/-- A body whose lines have a fault is refused with it. -/
theorem FirstFault.extractSections {template body : Text} {e : CompileError}
    (h : FirstFault template (lineSpans body) e) : extractSections template body = .error e := by
  rw [extractSections_eq]
  generalize lineSpans body = ls at h
  cases h with
  | nameless v hl =>
    rw [v.liftedLines_append, liftedLines, hl]
    rfl
  | @duplicate front rest r v hl henc hname htaken =>
    have hregion := liftedLines_encloses template (front.length + 1 + 1) v.names.reverse []
      (r := ⟨capitalize r.name, front.length + 1, 1⟩) (Nat.le_refl 1) henc rest
    have htaken' : capitalize r.name ∈ v.names.reverse := List.mem_reverse.2 htaken
    rw [if_pos (List.contains_iff_mem.2 htaken')] at hregion
    have hlines : r.lines ++ rest = r.header :: (r.content ++ r.closer :: rest) := by
      simp [Region.lines]
    rw [v.liftedLines_append, hlines, liftedLines_header template _ _ hl hname, hregion]
    rfl
  | @unclosed front rest l name v hl hname hopen =>
    have hregion := liftedLines_staysOpen template (front.length + 1 + 1) v.names.reverse []
      (r := ⟨capitalize name, front.length + 1, 1⟩) (Nat.le_refl 1) hopen
    rw [v.liftedLines_append, liftedLines_header template _ _ hl hname, hregion]
    rfl

/-- **Sections are read by their grammar.**  The lines make up the body, each with its line feed,
    which the last may lack.  A header line is the word, a blank and a name or nothing, and an
    opening brace.  Reading succeeds exactly if the lines have a sectioning, which is then the only
    one: what it keeps is the rest, and what it lifts are the sections.  It fails exactly with the
    first fault of the lines. -/
theorem extractSections_grammar (template body : Text) :
    (∀ ls, lineSpans body = ls ↔ ls.flatten = body ∧ Spans ls)
    ∧ (∀ line name, header? RegionKind.sections.keyword (trim line) = some name ↔
      ∃ inner, trim line = "section".toList ++ inner ++ ['\x7b']
        ∧ (∀ c ∈ inner.head?, isBlank c = true) ∧ name = trim inner)
    ∧ (∀ rest sections, extractSections template body = .ok (rest, sections) ↔
      ∃ v : Sectioning (lineSpans body), (∀ w : Sectioning (lineSpans body), w = v)
        ∧ rest = v.rest ∧ sections = v.sections)
    ∧ (∀ e, extractSections template body = .error e ↔ FirstFault template (lineSpans body) e) := by
  have htotal := sectioned_or_faulty template (lineSpans body) Sectioning.nil
  rw [List.nil_append] at htotal
  refine ⟨lineSpans_eq_iff body, fun line name => header?_eq_some_iff _ _ _,
    fun rest sections => ⟨fun h => ?_, ?_⟩, fun e => ⟨fun h => ?_, FirstFault.extractSections⟩⟩
  · rcases htotal with ⟨⟨v⟩⟩ | ⟨e, hfault⟩
    · obtain ⟨hrest, hsections⟩ := Prod.mk.inj (Except.ok.inj (h.symm.trans v.extractSections))
      exact ⟨v, v.unique, hrest, hsections⟩
    · rw [hfault.extractSections] at h
      cases h
  · rintro ⟨v, _, rfl, rfl⟩
    exact v.extractSections
  · rcases htotal with ⟨⟨v⟩⟩ | ⟨e', hfault⟩
    · rw [v.extractSections] at h
      cases h
    · rw [hfault.extractSections] at h
      cases h
      exact hfault

end GoTemplate
