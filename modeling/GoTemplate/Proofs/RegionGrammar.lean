/-
  The grammar of regions.

  A body is DIVIDED into lines that are kept and regions: a header, content, a closing line.  The
  content goes up and down in levels, and the region closes on the first line behind the header
  that brings the level to zero (`Encloses`).  Headers inside a region are content.  There is at
  most one such division (`Divided.unique`); what can stand in its way is a region that no line
  closes (`StaysOpen`).

  A pass reads a body line by line with an open region or none.  What it keeps is what the division
  keeps, and what it lifts is the content of the regions (`divided_of_keptLines`,
  `divided_of_liftedLines`).  Both are SUBLISTS of what was read, so they are cut again into the
  same lines, and the two passes on text are the two passes on lines
  (`stripBlocks_bind_extractSections`).
-/
import GoTemplate.Proofs.Regions

namespace GoTemplate

/-! ## Levels -/

/-- The level behind a line: a closing brace in front goes up and, if the region is still open, an
    opening brace at the end goes down. -/
def levelAfter (n : Nat) (line : Text) : Nat :=
  let up := if (trim line).head? = some '\x7d' then n - 1 else n
  if up = 0 then 0 else if (trim line).getLast? = some '\x7b' then up + 1 else up

/-- From level `n`, the content and then the first line that reaches level zero. -/
inductive Encloses : Nat → List Text → Text → Prop
  | close {n : Nat} {closer : Text} : levelAfter n closer = 0 → Encloses n [] closer
  | content {n : Nat} {l closer : Text} {ls : List Text} : levelAfter n l ≠ 0 →
      Encloses (levelAfter n l) ls closer → Encloses n (l :: ls) closer

/-- An open region follows the levels. -/
theorem OpenRegion.next?_eq {r : OpenRegion} (hr : 1 ≤ r.level) (l : Text) :
    r.next? (trim l) = if levelAfter r.level l = 0 then none
      else some { r with level := levelAfter r.level l } := by
  by_cases hup : (trim l).head? = some '\x7d'
  · by_cases hlevel : r.level ≤ 1
    · have hzero : r.level - 1 = 0 := by omega
      simp [OpenRegion.next?, levelAfter, hup, hlevel, hzero]
    · have hpos : r.level - 1 ≠ 0 := by omega
      by_cases hdown : (trim l).getLast? = some '\x7b'
      · simp [OpenRegion.next?, levelAfter, hup, hlevel, hpos, hdown]
      · simp [OpenRegion.next?, levelAfter, hup, hlevel, hpos, hdown]
  · have hpos : r.level ≠ 0 := by omega
    by_cases hdown : (trim l).getLast? = some '\x7b'
    · simp [OpenRegion.next?, levelAfter, hup, hpos, hdown]
    · simp [OpenRegion.next?, levelAfter, hup, hpos, hdown]

/-! ## Divisions -/

/-- A region as it stands in a body. -/
structure Region where
  header : Text
  name : Text
  content : List Text
  closer : Text

/-- The lines of a region. -/
def Region.lines (r : Region) : List Text := r.header :: (r.content ++ [r.closer])

/-- Lines divided into regions of a kind and lines that are kept. -/
inductive Divided (k : RegionKind) : List Text → List Region → List Text → Prop
  | nil : Divided k [] [] []
  | keep {l : Text} {ls ks : List Text} {rs : List Region} :
      header? k.keyword (trim l) = none → Divided k ls rs ks → Divided k (l :: ls) rs (l :: ks)
  | region {r : Region} {ls ks : List Text} {rs : List Region} :
      header? k.keyword (trim r.header) = some r.name → Encloses 1 r.content r.closer →
      Divided k ls rs ks → Divided k (r.lines ++ ls) (r :: rs) ks

/-- A line is kept or stands in a region. -/
theorem Divided.mem_or {k : RegionKind} {ls ks : List Text} {rs : List Region}
    (h : Divided k ls rs ks) {l : Text} (hl : l ∈ ls) : l ∈ ks ∨ ∃ r ∈ rs, l ∈ r.lines := by
  induction h with
  | nil => exact absurd hl List.not_mem_nil
  | keep _ _ ih =>
    rcases List.mem_cons.1 hl with rfl | hl
    · exact .inl List.mem_cons_self
    · rcases ih hl with hk | hr
      · exact .inl (List.mem_cons_of_mem _ hk)
      · exact .inr hr
  | @region r _ _ _ _ _ _ ih =>
    rcases List.mem_append.1 hl with hl | hl
    · exact .inr ⟨r, List.mem_cons_self, hl⟩
    · rcases ih hl with hk | ⟨r', hr', hl'⟩
      · exact .inl hk
      · exact .inr ⟨r', List.mem_cons_of_mem r hr', hl'⟩

/-- What is kept are lines that were read, in order. -/
theorem Divided.sublist {k : RegionKind} {ls ks : List Text} {rs : List Region}
    (h : Divided k ls rs ks) : ks.Sublist ls := by
  induction h with
  | nil => exact .slnil
  | keep _ _ ih => exact ih.cons_cons _
  | @region r ls _ _ _ _ _ ih => exact ih.trans (List.sublist_append_right r.lines ls)

/-- And so are the lines of each region. -/
theorem Divided.lines_sublist {k : RegionKind} {ls ks : List Text} {rs : List Region}
    (h : Divided k ls rs ks) {r : Region} (hr : r ∈ rs) : r.lines.Sublist ls := by
  induction h with
  | nil => exact absurd hr List.not_mem_nil
  | keep _ _ ih => exact (ih hr).cons _
  | @region r' ls _ _ _ _ _ ih =>
    rcases List.mem_cons.1 hr with rfl | hr
    · exact List.sublist_append_left r.lines ls
    · exact (ih hr).trans (List.sublist_append_right r'.lines ls)

theorem Region.content_sublist (r : Region) : r.content.Sublist r.lines :=
  (List.sublist_append_left r.content [r.closer]).cons r.header

/-! ## Only one division -/

/-- The first line that reaches level zero is one line. -/
theorem Encloses.unique {n : Nat} {content content' ms ms' : List Text} {closer closer' : Text}
    (h : Encloses n content closer) (h' : Encloses n content' closer')
    (heq : content ++ closer :: ms = content' ++ closer' :: ms') :
    content = content' ∧ closer = closer' ∧ ms = ms' := by
  induction h generalizing content' with
  | close hl =>
    cases h' with
    | close _ => exact ⟨rfl, List.cons.inj heq⟩
    | content hl' _ =>
      obtain ⟨rfl, _⟩ := List.cons.inj heq
      exact absurd hl hl'
  | content hl _ ih =>
    cases h' with
    | close hl' =>
      obtain ⟨rfl, _⟩ := List.cons.inj heq
      exact absurd hl' hl
    | content _ h' =>
      obtain ⟨rfl, htail⟩ := List.cons.inj heq
      obtain ⟨rfl, hcloser, hms⟩ := ih h' htail
      exact ⟨rfl, hcloser, hms⟩

/-- **A body is divided in one way.** -/
theorem Divided.unique {k : RegionKind} {ls ks ks' : List Text} {rs rs' : List Region}
    (h : Divided k ls rs ks) (h' : Divided k ls rs' ks') : rs = rs' ∧ ks = ks' := by
  induction h generalizing rs' ks' with
  | nil =>
    generalize hnil : ([] : List Text) = ls' at h'
    cases h' with
    | nil => exact ⟨rfl, rfl⟩
    | keep _ _ => cases hnil
    | region _ _ _ => cases hnil
  | @keep l ls ks rs hl hdiv ih =>
    generalize hls : l :: ls = ls' at h'
    cases h' with
    | nil => cases hls
    | keep _ h' =>
      obtain ⟨rfl, rfl⟩ := List.cons.inj hls
      obtain ⟨rfl, rfl⟩ := ih h'
      exact ⟨rfl, rfl⟩
    | region hl' _ _ =>
      obtain ⟨rfl, _⟩ := List.cons.inj hls
      rw [hl] at hl'
      cases hl'
  | @region r ls ks rs hl henc hdiv ih =>
    generalize hls : r.lines ++ ls = whole at h'
    cases h' with
    | nil => cases hls
    | keep hl' _ =>
      obtain ⟨rfl, _⟩ := List.cons.inj hls
      rw [hl] at hl'
      cases hl'
    | @region r' ls' _ _ hl' henc' h' =>
      have hlines : r.header :: (r.content ++ r.closer :: ls)
          = r'.header :: (r'.content ++ r'.closer :: ls') := by simpa [Region.lines] using hls
      obtain ⟨hheader, htail⟩ := List.cons.inj hlines
      obtain ⟨hcontent, hcloser, rfl⟩ := henc.unique henc' htail
      have hname : r.name = r'.name := by
        rw [hheader, hl'] at hl
        exact (Option.some.inj hl).symm
      obtain rfl : r = r' := by cases r; cases r'; simp_all
      obtain ⟨rfl, rfl⟩ := ih h'
      exact ⟨rfl, rfl⟩

/-- Two divisions, one after the other. -/
theorem Divided.append {k : RegionKind} {ls ls' ks ks' : List Text} {rs rs' : List Region}
    (h : Divided k ls rs ks) (h' : Divided k ls' rs' ks') :
    Divided k (ls ++ ls') (rs ++ rs') (ks ++ ks') := by
  induction h with
  | nil => exact h'
  | keep hl _ ih => exact .keep hl ih
  | region hl henc _ ih =>
    rw [List.append_assoc]
    exact .region hl henc ih

/-! ## Regions that are never closed -/

/-- From level `n`, no line reaches level zero. -/
inductive StaysOpen : Nat → List Text → Prop
  | nil (n : Nat) : StaysOpen n []
  | cons {n : Nat} {l : Text} {ls : List Text} : levelAfter n l ≠ 0 →
      StaysOpen (levelAfter n l) ls → StaysOpen n (l :: ls)

/-- An open region is closed by some line or by none. -/
theorem encloses_or_staysOpen (n : Nat) (ls : List Text) :
    (∃ content closer ms, ls = content ++ closer :: ms ∧ Encloses n content closer)
      ∨ StaysOpen n ls := by
  induction ls generalizing n with
  | nil => exact .inr (.nil n)
  | cons l ls ih =>
    by_cases hl : levelAfter n l = 0
    · exact .inl ⟨[], l, ls, rfl, .close hl⟩
    · rcases ih (levelAfter n l) with ⟨content, closer, ms, rfl, henc⟩ | hopen
      · exact .inl ⟨l :: content, closer, ms, rfl, .content hl henc⟩
      · exact .inr (.cons hl hopen)

/-! ## Open regions -/

/-- With a region open at level `n`: the rest of it, and a division of the lines behind it. -/
structure Closes (k : RegionKind) (n : Nat) (ls : List Text) (rs : List Region) (ks : List Text)
    (content : List Text) (closer : Text) : Prop where
  encloses : Encloses n content closer
  rest : ∃ ms, ls = content ++ closer :: ms ∧ Divided k ms rs ks

/-- One more line of content. -/
theorem Closes.cons {k : RegionKind} {n : Nat} {l closer : Text} {ls ks content : List Text}
    {rs : List Region} (hl : levelAfter n l ≠ 0)
    (h : Closes k (levelAfter n l) ls rs ks content closer) :
    Closes k n (l :: ls) rs ks (l :: content) closer := by
  obtain ⟨ms, rfl, hdiv⟩ := h.rest
  exact ⟨.content hl h.encloses, ms, rfl, hdiv⟩

/-- The closing line. -/
theorem Closes.nil {k : RegionKind} {n : Nat} {l : Text} {ls ks : List Text} {rs : List Region}
    (hl : levelAfter n l = 0) (h : Divided k ls rs ks) : Closes k n (l :: ls) rs ks [] l :=
  ⟨.close hl, ls, rfl, h⟩

/-- A header in front of what closes it is a region. -/
theorem Closes.region {k : RegionKind} {l name closer : Text} {ls ks content : List Text}
    {rs : List Region} (hl : header? k.keyword (trim l) = some name)
    (h : Closes k 1 ls rs ks content closer) :
    Divided k (l :: ls) (⟨l, name, content, closer⟩ :: rs) ks := by
  obtain ⟨ms, rfl, hdiv⟩ := h.rest
  have hlines : l :: (content ++ closer :: ms)
      = (⟨l, name, content, closer⟩ : Region).lines ++ ms := by simp [Region.lines]
  rw [hlines]
  exact .region hl h.encloses hdiv

/-! ## What the passes keep and lift -/

theorem divided_of_keptLines {template : Text} {n : Nat} {open? : Option OpenRegion}
    {ls ks : List Text} (h : keptLines template n open? ls = .ok ks) :
    match open? with
    | none => ∃ rs, Divided .blocks ls rs ks
    | some r => 1 ≤ r.level → ∃ rs content closer,
        Closes .blocks r.level ls rs ks content closer := by
  -- both states of the pass at once: each calls the other when a region opens or closes
  induction ls generalizing n open? ks with
  | nil =>
    cases open? with
    | none => cases h; exact ⟨[], .nil⟩
    | some r => nomatch h
  | cons l ls ih =>
    cases open? with
    | some r =>
      intro hr
      rw [keptLines, OpenRegion.next?_eq hr] at h
      by_cases hl : levelAfter r.level l = 0
      · rw [if_pos hl] at h
        obtain ⟨rs, hdiv⟩ := ih h
        exact ⟨rs, [], l, .nil hl hdiv⟩
      · rw [if_neg hl] at h
        obtain ⟨rs, content, closer, hcl⟩ := ih h (Nat.one_le_iff_ne_zero.2 hl)
        exact ⟨rs, l :: content, closer, hcl.cons hl⟩
    | none =>
      rw [keptLines] at h
      cases hh : header? RegionKind.blocks.keyword (trim l) with
      | some name =>
        rw [hh] at h
        obtain ⟨rs, content, closer, hcl⟩ := ih h (Nat.le_refl 1)
        exact ⟨_, hcl.region hh⟩
      | none =>
        rw [hh] at h
        obtain ⟨ks', hk, rfl⟩ := exists_ok_of_map_ok h
        obtain ⟨rs, hdiv⟩ := ih hk
        exact ⟨rs, .keep hh hdiv⟩

/-- The section that a region yields: its name capitalised, and the lines in it. -/
def Region.lifted (r : Region) : Text × List Text := (capitalize r.name, r.content)

theorem divided_of_liftedLines {template : Text} {n : Nat} {seen : List Text}
    {open? : Option (OpenRegion × List Text)} {ls ks : List Text} {ss : List (Text × List Text)}
    (h : liftedLines template n seen open? ls = .ok (ks, ss)) :
    match open? with
    | none => ∃ rs, Divided .sections ls rs ks ∧ ss = rs.map Region.lifted
    | some (r, before) => 1 ≤ r.level → ∃ rs content closer,
        Closes .sections r.level ls rs ks content closer
          ∧ ss = (r.name, before ++ content) :: rs.map Region.lifted := by
  induction ls generalizing n seen open? ks ss with
  | nil =>
    cases open? with
    | none => cases h; exact ⟨[], .nil, rfl⟩
    | some p => cases h
  | cons l ls ih =>
    cases open? with
    | some p =>
      obtain ⟨r, before⟩ := p
      intro hr
      rw [liftedLines, OpenRegion.next?_eq hr] at h
      by_cases hl : levelAfter r.level l = 0
      · rw [if_pos hl] at h
        simp only at h
        split at h
        · cases h
        · obtain ⟨⟨ks', ss'⟩, hk, he⟩ := exists_ok_of_map_ok h
          cases he
          obtain ⟨rs, hdiv, rfl⟩ := ih hk
          exact ⟨rs, [], l, .nil hl hdiv, by rw [List.append_nil]⟩
      · rw [if_neg hl] at h
        obtain ⟨rs, content, closer, hcl, rfl⟩ := ih h (Nat.one_le_iff_ne_zero.2 hl)
        exact ⟨rs, l :: content, closer, hcl.cons hl, by simp⟩
    | none =>
      rw [liftedLines] at h
      split at h
      · cases h
      · next name hname hh =>
        obtain ⟨rs, content, closer, hcl, rfl⟩ := ih h (Nat.le_refl 1)
        exact ⟨_, hcl.region hh, rfl⟩
      · next hh =>
        obtain ⟨⟨ks', ss'⟩, hk, he⟩ := exists_ok_of_map_ok h
        cases he
        obtain ⟨rs, hdiv, rfl⟩ := ih hk
        exact ⟨rs, .keep hh hdiv, rfl⟩

/-- A body divided by both passes: into blocks and what they leave, and that into sections and what
    stays in the function. -/
structure Division (ls : List Text) where
  blocks : List Region
  kept : List Text
  sections : List Region
  body : List Text
  blocks_divided : Divided .blocks ls blocks kept
  sections_divided : Divided .sections kept sections body

/-- A line stays in the function or stands in a region. -/
theorem Division.mem_or {ls : List Text} (v : Division ls) {l : Text} (hl : l ∈ ls) :
    l ∈ v.body ∨ ∃ r ∈ v.blocks ++ v.sections, l ∈ r.lines := by
  rcases v.blocks_divided.mem_or hl with hl | ⟨r, hr, hl⟩
  · rcases v.sections_divided.mem_or hl with hl | ⟨r, hr, hl⟩
    · exact .inl hl
    · exact .inr ⟨r, List.mem_append_right _ hr, hl⟩
  · exact .inr ⟨r, List.mem_append_left _ hr, hl⟩

/-- **Both passes divide the body.** -/
theorem division_of_regionLines {template : Text} {ls ks : List Text}
    {ss : List (Text × List Text)} (h : regionLines template ls = .ok (ks, ss)) :
    ∃ v : Division ls, ks = v.body ∧ ss = v.sections.map Region.lifted := by
  rw [regionLines] at h
  cases hk : keptLines template 1 none ls with
  | error e => rw [hk] at h; cases h
  | ok kept =>
    rw [hk] at h
    obtain ⟨blocks, hblocks⟩ := divided_of_keptLines hk
    obtain ⟨sections, hsections, hss⟩ := divided_of_liftedLines h
    exact ⟨⟨blocks, kept, sections, ks, hblocks, hsections⟩, rfl, hss⟩

/-- What both passes keep, and what is in the sections, are lines of the body. -/
theorem regionLines_sublist {template : Text} {ls ks : List Text} {ss : List (Text × List Text)}
    (h : regionLines template ls = .ok (ks, ss)) :
    ks.Sublist ls ∧ ∀ s ∈ ss, s.2.Sublist ls := by
  obtain ⟨v, rfl, rfl⟩ := division_of_regionLines h
  have hkept := v.blocks_divided.sublist
  refine ⟨v.sections_divided.sublist.trans hkept, fun s hs => ?_⟩
  obtain ⟨r, hr, rfl⟩ := List.mem_map.1 hs
  exact r.content_sublist.trans ((v.sections_divided.lines_sublist hr).trans hkept)

/-- **The passes compose on lines**: what the first keeps is cut again into the same lines. -/
theorem stripBlocks_bind_extractSections (template body : Text) :
    (stripBlocks template body).bind (extractSections template)
      = (regionLines template (lineSpans body)).map glue := by
  rw [stripBlocks, stripSpans_eq, regionLines]
  cases hk : keptLines template 1 none (lineSpans body) with
  | error e => rfl
  | ok ks =>
    show extractSections template ks.flatten = (liftedLines template 1 [] none ks).map glue
    obtain ⟨_, hdiv⟩ := divided_of_keptLines hk
    rw [extractSections, lineSpans_flatten_of_sublist hdiv.sublist]
    exact liftSpans_eq template 1 [] none ks

end GoTemplate
