/-
  Blocks are cut out by their grammar, and by nothing else.

  Read from the left, the lines of a body are kept lines and block regions and, at the end, perhaps
  a header whose region no line closes.  That is a BLOCKING of the lines.  Every list of lines has
  exactly one (`exists_blocking`, `Blocking.unique`), and `stripBlocks` says what it says: the kept
  lines, or the header that is left open, with its name and the number of its line.

  1. The pass runs over a prefix that is divided (`keptLines_append`) and behind a header that is
     left open it runs to the end (`keptLines_staysOpen`), so a blocking fixes its result.
  2. The region that is open behind a prefix is the state of the pass there (`stripSpans_append`).
     A line that would bring its level to zero closes it, so its level is at least one as long as it
     is open (`one_le_level`): the level never has to go below zero.
-/
import GoTemplate.Proofs.SectionGrammar

namespace GoTemplate

/-! ## Blockings -/

/-- A header whose region no line closes. -/
structure OpenEnd where
  header : Text
  name : Text
  content : List Text
  opens : header? RegionKind.blocks.keyword (trim header) = some name
  staysOpen : StaysOpen 1 content

/-- The lines from the header to the end. -/
def OpenEnd.lines (o : OpenEnd) : List Text := o.header :: o.content

/-- The lines of an open end, none if there is none. -/
def endLines : Option OpenEnd → List Text
  | none => []
  | some o => o.lines

/-- Lines cut from the left: kept lines and regions in front, then perhaps an open end. -/
structure Blocking (ls : List Text) where
  front : List Text
  regions : List Region
  kept : List Text
  openEnd? : Option OpenEnd
  lines_eq : ls = front ++ endLines openEnd?
  divided : Divided .blocks front regions kept

/-- What is left of a body with this blocking. -/
def Blocking.result {ls : List Text} (v : Blocking ls) (template : Text) :
    Except CompileError Text :=
  match v.openEnd? with
  | none => .ok v.kept.flatten
  | some o => .error ⟨template, .unbalancedRegion .blocks o.name (v.front.length + 1)⟩

/-! ## Every list of lines has a blocking -/

/-- A blocking behind a prefix that is divided. -/
theorem exists_blocking_append : ∀ (tail : List Text) {front ks : List Text} {rs : List Region},
    Divided .blocks front rs ks → Nonempty (Blocking (front ++ tail))
  | [], front, ks, rs, hdiv => ⟨⟨front, rs, ks, none, rfl, hdiv⟩⟩
  | l :: tail, front, ks, rs, hdiv => by
    cases hh : header? RegionKind.blocks.keyword (trim l) with
    | none =>
      have hrest := exists_blocking_append tail (hdiv.append (.keep hh .nil))
      rwa [List.append_assoc, List.singleton_append] at hrest
    | some name =>
      rcases encloses_or_staysOpen 1 tail with ⟨content, closer, ms, rfl, henc⟩ | hopen
      · have hregion : Divided .blocks (Region.lines ⟨l, name, content, closer⟩ ++ [])
            [⟨l, name, content, closer⟩] [] := .region hh henc .nil
        have hrest := exists_blocking_append ms (hdiv.append hregion)
        have hlines : front ++ (Region.lines ⟨l, name, content, closer⟩ ++ []) ++ ms
            = front ++ l :: (content ++ closer :: ms) := by simp [Region.lines]
        rwa [hlines] at hrest
      · exact ⟨⟨front, rs, ks, some ⟨l, name, tail, hh, hopen⟩, rfl, hdiv⟩⟩
termination_by tail => tail.length

theorem exists_blocking (ls : List Text) : Nonempty (Blocking ls) :=
  exists_blocking_append ls .nil

/-! ## Only one blocking -/

/-- What stays open is not closed. -/
theorem StaysOpen.not_encloses {n : Nat} {content ms : List Text} {closer : Text}
    (hopen : StaysOpen n (content ++ closer :: ms)) : ¬ Encloses n content closer := by
  intro henc
  induction henc with
  | close hl =>
    cases hopen with
    | cons hl' _ => exact hl' hl
  | content _ _ ih =>
    cases hopen with
    | cons _ hopen => exact ih hopen

/-- An open end does not begin with a line that is kept. -/
theorem endLines_ne_keep {o : Option OpenEnd} {l : Text} {ls : List Text}
    (hl : header? RegionKind.blocks.keyword (trim l) = none) : endLines o ≠ l :: ls := by
  intro h
  cases o with
  | none => cases h
  | some o =>
    obtain ⟨hheader, _⟩ := List.cons.inj h
    have hopens := o.opens
    rw [hheader, hl] at hopens
    cases hopens

/-- An open end does not begin with a region. -/
theorem endLines_ne_region {o : Option OpenEnd} {r : Region} {ls : List Text}
    (henc : Encloses 1 r.content r.closer) : endLines o ≠ r.lines ++ ls := by
  intro h
  cases o with
  | none => cases h
  | some o =>
    have hlines : o.header :: o.content = r.header :: (r.content ++ r.closer :: ls) := by
      simpa [endLines, OpenEnd.lines, Region.lines] using h
    obtain ⟨_, hcontent⟩ := List.cons.inj hlines
    exact (hcontent ▸ o.staysOpen).not_encloses henc

/-- An open end begins where nothing more can be kept or cut out. -/
theorem Divided.front_unique {front front' ks ks' : List Text} {rs rs' : List Region}
    {o o' : Option OpenEnd} (h : Divided .blocks front rs ks) (h' : Divided .blocks front' rs' ks')
    (heq : front ++ endLines o = front' ++ endLines o') :
    front = front' ∧ endLines o = endLines o' := by
  induction h generalizing front' ks' rs' with
  | nil =>
    rw [List.nil_append] at heq
    cases h' with
    | nil => exact ⟨rfl, heq⟩
    | keep hl' _ => exact absurd heq (endLines_ne_keep hl')
    | region _ henc' _ =>
      rw [List.append_assoc] at heq
      exact absurd heq (endLines_ne_region henc')
  | @keep l ls ks rs hl hdiv ih =>
    cases h' with
    | nil => exact absurd heq.symm (endLines_ne_keep hl)
    | keep _ h' =>
      obtain ⟨rfl, htail⟩ := List.cons.inj heq
      obtain ⟨rfl, hend⟩ := ih h' htail
      exact ⟨rfl, hend⟩
    | region hl' _ _ =>
      obtain ⟨rfl, _⟩ := List.cons.inj heq
      rw [hl] at hl'
      cases hl'
  | @region r ls ks rs hl henc hdiv ih =>
    rw [List.append_assoc] at heq
    cases h' with
    | nil => exact absurd heq.symm (endLines_ne_region henc)
    | keep hl' _ =>
      obtain ⟨rfl, _⟩ := List.cons.inj heq
      rw [hl] at hl'
      cases hl'
    | @region r' ls' _ _ hl' henc' h' =>
      have hlines : r.header :: (r.content ++ r.closer :: (ls ++ endLines o))
          = r'.header :: (r'.content ++ r'.closer :: (ls' ++ endLines o')) := by
        simpa [Region.lines] using heq
      obtain ⟨hheader, htail⟩ := List.cons.inj hlines
      obtain ⟨hcontent, hcloser, hrest⟩ := henc.unique henc' htail
      obtain ⟨rfl, hend⟩ := ih h' hrest
      exact ⟨by rw [Region.lines, Region.lines, hheader, hcontent, hcloser], hend⟩

theorem endLines_injective {o o' : Option OpenEnd} (h : endLines o = endLines o') : o = o' := by
  cases o with
  | none =>
    cases o' with
    | none => rfl
    | some o' => cases h
  | some o =>
    cases o' with
    | none => cases h
    | some o' =>
      obtain ⟨header, name, content, hopens, _⟩ := o
      obtain ⟨header', name', content', hopens', _⟩ := o'
      obtain ⟨rfl, rfl⟩ := List.cons.inj h
      cases hopens.symm.trans hopens'
      rfl

/-- **Lines are cut from the left in one way.** -/
theorem Blocking.unique {ls : List Text} (v w : Blocking ls) : w = v := by
  obtain ⟨front, rs, ks, o, hls, hdiv⟩ := v
  obtain ⟨front', rs', ks', o', hls', hdiv'⟩ := w
  obtain ⟨rfl, hend⟩ := hdiv.front_unique hdiv' (hls.symm.trans hls')
  obtain ⟨rfl, rfl⟩ := hdiv.unique hdiv'
  cases endLines_injective hend
  rfl

/-! ## The pass -/

/-- With a region open, the pass runs to the line that closes it. -/
theorem keptLines_encloses (template : Text) (n : Nat) {r : OpenRegion} (hr : 1 ≤ r.level)
    {content : List Text} {closer : Text} (henc : Encloses r.level content closer)
    (rest : List Text) :
    keptLines template n (some r) (content ++ closer :: rest)
      = keptLines template (n + content.length + 1) none rest := by
  induction content generalizing n r with
  | nil =>
    cases henc with
    | close hl =>
      rw [List.nil_append, keptLines, OpenRegion.next?_eq hr, if_pos hl]
      rfl
  | cons l content ih =>
    cases henc with
    | content hl henc =>
      have hrest := ih (n + 1) (r := { r with level := levelAfter r.level l })
        (Nat.one_le_iff_ne_zero.2 hl) henc
      rw [List.cons_append, keptLines, OpenRegion.next?_eq hr, if_neg hl, hrest, List.length_cons]
      rw [show n + 1 + content.length + 1 = n + (content.length + 1) + 1 by omega]

/-- A region that stays open is reported at the end. -/
theorem keptLines_staysOpen (template : Text) (n : Nat) {r : OpenRegion} (hr : 1 ≤ r.level)
    {ls : List Text} (hopen : StaysOpen r.level ls) :
    keptLines template n (some r) ls
      = .error ⟨template, .unbalancedRegion .blocks r.name r.line⟩ := by
  induction ls generalizing n r with
  | nil => rfl
  | cons l ls ih =>
    cases hopen with
    | cons hl hopen =>
      rw [keptLines, OpenRegion.next?_eq hr, if_neg hl]
      exact ih (n + 1) (r := { r with level := levelAfter r.level l })
        (Nat.one_le_iff_ne_zero.2 hl) hopen

/-- **Over a prefix that is divided the pass goes on with what is behind it**, the line number
    moved on. -/
theorem keptLines_append (template : Text) {front ks : List Text} {rs : List Region}
    (hdiv : Divided .blocks front rs ks) (n : Nat) (rest : List Text) :
    keptLines template n none (front ++ rest)
      = (keptLines template (n + front.length) none rest).map (ks ++ ·) := by
  induction hdiv generalizing n with
  | nil =>
    show keptLines template n none rest = (keptLines template n none rest).map id
    cases keptLines template n none rest <;> rfl
  | @keep l ls ks rs hl _ ih =>
    rw [List.cons_append, keptLines, hl]
    simp only [ih (n + 1), List.length_cons]
    rw [show n + 1 + ls.length = n + (ls.length + 1) by omega]
    cases keptLines template (n + (ls.length + 1)) none rest <;> rfl
  | @region r ls ks rs hl henc _ ih =>
    have hlines : r.lines ++ ls ++ rest
        = r.header :: (r.content ++ r.closer :: (ls ++ rest)) := by simp [Region.lines]
    have hlength : (r.lines ++ ls).length = r.content.length + 2 + ls.length := by
      simp [Region.lines]
      omega
    have hregion := keptLines_encloses template (n + 1) (r := ⟨r.name, n, 1⟩) (Nat.le_refl 1) henc
      (ls ++ rest)
    rw [hlines, keptLines, hl]
    refine hregion.trans ?_
    rw [ih, hlength]
    rw [show n + 1 + r.content.length + 1 + ls.length = n + (r.content.length + 2 + ls.length) by
      omega]

/-- A body is stripped by the blocking of its lines. -/
theorem Blocking.stripBlocks {template body : Text} (v : Blocking (lineSpans body)) :
    stripBlocks template body = v.result template := by
  have hpass : GoTemplate.stripBlocks template body
      = ((keptLines template (1 + v.front.length) none (endLines v.openEnd?)).map
          (v.kept ++ ·)).map List.flatten := by
    rw [GoTemplate.stripBlocks, stripSpans_eq, ← keptLines_append template v.divided, ← v.lines_eq]
  rw [hpass, Blocking.result]
  cases v.openEnd? with
  | none =>
    show Except.ok (v.kept ++ []).flatten = Except.ok v.kept.flatten
    rw [List.append_nil]
  | some o =>
    have hopen := keptLines_staysOpen template (1 + v.front.length + 1)
      (r := ⟨o.name, 1 + v.front.length, 1⟩) (Nat.le_refl 1) o.staysOpen
    rw [endLines, OpenEnd.lines, keptLines, o.opens]
    simp only [hopen]
    rw [Nat.add_comm 1 v.front.length]
    rfl

/-! ## The level of an open region -/

/-- The region that is open behind a line, the line with number `n`. -/
def openStep (n : Nat) (open? : Option OpenRegion) (span : Text) : Option OpenRegion :=
  match open? with
  | some r => r.next? (trim span)
  | none => (header? RegionKind.blocks.keyword (trim span)).map fun name => ⟨name, n, 1⟩

/-- The region that is open behind some lines, the first of them with number `n`. -/
def openAfter (n : Nat) (open? : Option OpenRegion) : List Text → Option OpenRegion
  | [] => open?
  | span :: rest => openAfter (n + 1) (openStep n open? span) rest

/-- One line of the pass: it is kept or not, and the pass goes on in the next state. -/
theorem stripSpans_cons (template : Text) (n : Nat) (open? : Option OpenRegion) (span : Text)
    (rest : List Text) :
    ∃ kept, stripSpans template n open? (span :: rest)
      = (stripSpans template (n + 1) (openStep n open? span) rest).map (kept ++ ·) := by
  have hid : ∀ x : Except CompileError Text, x = x.map ([] ++ ·) := fun x => by cases x <;> rfl
  cases open? with
  | some r => exact ⟨[], hid _⟩
  | none =>
    rw [stripSpans, openStep]
    cases header? RegionKind.blocks.keyword (trim span) with
    | some name => exact ⟨[], hid _⟩
    | none => exact ⟨span, rfl⟩

/-- **Behind a prefix the pass is in the state that `openAfter` gives**, with some text kept. -/
theorem stripSpans_append (template : Text) (n : Nat) (open? : Option OpenRegion)
    (front rest : List Text) :
    ∃ kept, stripSpans template n open? (front ++ rest)
      = (stripSpans template (n + front.length) (openAfter n open? front) rest).map (kept ++ ·) := by
  induction front generalizing n open? with
  | nil =>
    refine ⟨[], ?_⟩
    show stripSpans template n open? rest = (stripSpans template n open? rest).map id
    cases stripSpans template n open? rest <;> rfl
  | cons span front ih =>
    obtain ⟨kept, hstep⟩ := stripSpans_cons template n open? span (front ++ rest)
    obtain ⟨kept', hrest⟩ := ih (n + 1) (openStep n open? span)
    refine ⟨kept ++ kept', ?_⟩
    rw [List.cons_append, hstep, hrest, openAfter, List.length_cons,
      show n + 1 + front.length = n + (front.length + 1) by omega]
    cases stripSpans template (n + (front.length + 1))
        (openAfter (n + 1) (openStep n open? span) front) rest with
    | error e => rfl
    | ok t => exact congrArg Except.ok (List.append_assoc kept kept' t).symm

/-- A line leaves the level at one or above, or closes the region. -/
theorem one_le_level_step {n : Nat} {open? : Option OpenRegion}
    (h : ∀ r ∈ open?, 1 ≤ r.level) (span : Text) : ∀ r ∈ openStep n open? span, 1 ≤ r.level := by
  intro r hr
  cases open? with
  | some r₀ =>
    rw [openStep, OpenRegion.next?_eq (h r₀ rfl)] at hr
    split at hr
    · cases hr
    · next hl =>
      cases hr
      exact Nat.one_le_iff_ne_zero.2 hl
  | none =>
    obtain ⟨name, _, rfl⟩ := Option.map_eq_some_iff.1 hr
    exact Nat.le_refl 1

/-- **An open region is at level one or above throughout.** -/
theorem one_le_level {n : Nat} {open? : Option OpenRegion} (h : ∀ r ∈ open?, 1 ≤ r.level)
    (front : List Text) : ∀ r ∈ openAfter n open? front, 1 ≤ r.level := by
  induction front generalizing n open? with
  | nil => exact h
  | cons span front ih => exact ih (one_le_level_step h span)

/-! ## Stripping a body -/

/-- **Blocks are cut out by their grammar.**  The lines make up the body, each with its line feed,
    which the last may lack.  A header line is the word, a blank and a name or nothing, and an
    opening brace.  The lines of a body have one blocking.  If every region in it is closed, the
    kept lines are what is left; otherwise the open header is the error, with its name and the
    number of its line.  Behind any of the lines the region that the pass has open, if it has one,
    is at level one or above. -/
theorem stripBlocks_grammar (template body : Text) :
    (∀ ls, lineSpans body = ls ↔ ls.flatten = body ∧ Spans ls)
    ∧ (∀ line name, header? RegionKind.blocks.keyword (trim line) = some name ↔
      ∃ inner, trim line = "block".toList ++ inner ++ ['\x7b']
        ∧ (∀ c ∈ inner.head?, isBlank c = true) ∧ name = trim inner)
    ∧ (∃ v : Blocking (lineSpans body), (∀ w : Blocking (lineSpans body), w = v)
        ∧ stripBlocks template body = v.result template)
    ∧ ∀ front rest, lineSpans body = front ++ rest →
        (∃ kept, stripBlocks template body
          = (stripSpans template (1 + front.length) (openAfter 1 none front) rest).map (kept ++ ·))
        ∧ ∀ r ∈ openAfter 1 none front, 1 ≤ r.level := by
  obtain ⟨v⟩ := exists_blocking (lineSpans body)
  refine ⟨lineSpans_eq_iff body, fun line name => header?_eq_some_iff _ _ _,
    ⟨v, v.unique, v.stripBlocks⟩, ?_⟩
  intro front rest hlines
  have hstate := stripSpans_append template 1 none front rest
  rw [← hlines] at hstate
  exact ⟨hstate, one_le_level (fun r hr => absurd hr (Option.not_mem_none r)) front⟩

example : stripBlocks [] "a\nblock \x7b\nif x \x7b\n\x7d else \x7b\n\x7d\n".toList
    = .error ⟨[], .unbalancedRegion .blocks [] 2⟩ := by decide +kernel

end GoTemplate
