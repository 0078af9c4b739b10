/-
  A text of declarations, cut into entries.

  The reader finds specs and reads them in one go.  The two jobs are independent: WHERE a spec
  stands is decided by keywords, parentheses, semicolons and line ends, whatever becomes of it, and
  an ENTRY is a spec found in this way, with the kind of group it is read in.

  1. One step of the reader finds at most one entry and leaves the rest of its statement
     (`cutStep`), and what the step does is to read that entry (`Reading.step_eq`).
  2. A statement, a list of statements and a text have a list of entries (`textEntries`).  A text is
     accepted exactly if no group is left open and every entry can be read; its declarations are
     those of its entries, in order (`parseDeclarations_eq_ok_iff`).
  3. Cutting only leaves characters out, so no line feed is in an entry
     (`newline_not_mem_of_mem_textEntries`).
-/
import GoTemplate.Proofs.RawLiterals
import GoTemplate.Proofs.Statements

namespace GoTemplate

open Go (ScanState dropComment)

/-! ## Entries -/

/-- A spec as it stands in a text, and the kind of group it is read in. -/
structure Entry where
  group : Group
  text : Text
deriving DecidableEq

/-- The declarations of an entry. -/
def Entry.read? (e : Entry) : Option (List Declaration) := e.group.spec? e.text

/-- The declarations of entries, in order, if all of them can be read. -/
def readAll? : List Entry → Option (List Declaration)
  | [] => some []
  | e :: es => e.read?.bind fun ds => (readAll? es).map (ds ++ ·)

theorem readAll?_append (es fs : List Entry) :
    readAll? (es ++ fs) = (readAll? es).bind fun ds => (readAll? fs).map (ds ++ ·) := by
  induction es with
  | nil => simp [readAll?]
  | cons e es ih =>
    rw [List.cons_append, readAll?, readAll?, ih]
    cases e.read? with
    | none => rfl
    | some ds =>
      cases readAll? es with
      | none => rfl
      | some es' =>
        cases readAll? fs with
        | none => rfl
        | some fs' => simp

theorem readAll?_singleton (e : Entry) : readAll? [e] = e.read? := by
  rw [readAll?]
  cases e.read? with
  | none => rfl
  | some ds => simp [readAll?]

/-- Every declaration is read from an entry. -/
theorem exists_entry_of_mem {es : List Entry} {ds : List Declaration} (h : readAll? es = some ds)
    {d : Declaration} (hd : d ∈ ds) : ∃ e ∈ es, ∃ ds', e.read? = some ds' ∧ d ∈ ds' := by
  induction es generalizing ds with
  | nil =>
    cases h
    exact absurd hd List.not_mem_nil
  | cons e es ih =>
    obtain ⟨front, hfront, h⟩ := Option.bind_eq_some_iff.1 h
    obtain ⟨back, hback, rfl⟩ := Option.map_eq_some_iff.1 h
    rcases List.mem_append.1 hd with hd | hd
    · exact ⟨e, List.mem_cons_self, front, hfront, hd⟩
    · obtain ⟨e', he', hread⟩ := ih hback hd
      exact ⟨e', List.mem_cons_of_mem _ he', hread⟩

/-- Every entry is read, and its declarations are among all of them. -/
theorem exists_read_of_mem {es : List Entry} {ds : List Declaration} (h : readAll? es = some ds)
    {e : Entry} (he : e ∈ es) : ∃ ds', e.read? = some ds' ∧ ds' ⊆ ds := by
  induction es generalizing ds with
  | nil => exact absurd he List.not_mem_nil
  | cons e' es ih =>
    obtain ⟨front, hfront, h⟩ := Option.bind_eq_some_iff.1 h
    obtain ⟨back, hback, rfl⟩ := Option.map_eq_some_iff.1 h
    rcases List.mem_cons.1 he with rfl | he
    · exact ⟨front, hfront, List.subset_append_left _ _⟩
    · obtain ⟨ds', hds', hsub⟩ := ih hback he
      exact ⟨ds', hds', List.Subset.trans hsub (List.subset_append_right _ _)⟩

/-! ## One step -/

/-- What a step takes off a statement: the entries it finds, one or none, the group that is open
    behind them, and what is left. -/
structure Cut where
  entries : List Entry
  group : Option Group
  rest : Text

/-- The entry of a piece of a group; a blank piece holds none. -/
def Group.entries (g : Group) (piece : Text) : List Entry :=
  if (trim piece).isEmpty then [] else [⟨g, trim piece⟩]

/-- After the keyword of a group: an opening parenthesis, or one entry. -/
def Group.cutKeyword (g : Group) (rest : Text) : Cut :=
  match after? ['('] rest with
  | some inner => ⟨[], some g, trim inner⟩
  | none => ⟨[⟨g, rest⟩], none, []⟩

/-- A step outside groups. -/
def cutOutside (stmt : Text) : Cut :=
  match keywordRest? "import".toList stmt with
  | some rest => Group.imports.cutKeyword rest
  | none => match keywordRest? "var".toList stmt with
    | some rest => Group.vars.cutKeyword rest
    | none =>
      if (keywordRest? "package".toList stmt).any isIdentifier then ⟨[], none, []⟩
      else ⟨[⟨.imports, stmt⟩], none, []⟩

/-- A step inside a group. -/
def Group.cutInside (g : Group) (stmt : Text) : Cut :=
  match groupClose? .code 0 stmt with
  | some (spec, rest) => ⟨g.entries spec, none, trim rest⟩
  | none => ⟨g.entries stmt, some g, []⟩

/-- A step, inside a group or outside. -/
def cutStep : Option Group → Text → Cut
  | none, stmt => cutOutside stmt
  | some g, stmt => g.cutInside stmt

theorem Group.piece?_eq (g : Group) (t : Text) : g.piece? t = readAll? (g.entries t) := by
  rw [Group.piece?, Group.entries]
  split
  · rfl
  · exact (readAll?_singleton ⟨g, trim t⟩).symm

/-- **A step reads what it cuts off.** -/
theorem Reading.step_eq (r : Reading) (stmt : Text) :
    r.step stmt = (readAll? (cutStep r.group stmt).entries).map fun ds =>
      (⟨r.decls ++ ds, (cutStep r.group stmt).group⟩, (cutStep r.group stmt).rest) := by
  have hkeyword : ∀ (decls : List Declaration) (g : Group) (rest : Text),
      (⟨decls, none⟩ : Reading).openOrSpec g rest = (readAll? (g.cutKeyword rest).entries).map
        fun ds => (⟨decls ++ ds, (g.cutKeyword rest).group⟩, (g.cutKeyword rest).rest) := by
    intro decls g rest
    rw [Reading.openOrSpec, Group.cutKeyword]
    cases after? ['('] rest with
    | some inner => simp [readAll?]
    | none =>
      simp only [readAll?_singleton]
      rfl
  obtain ⟨decls, _ | g⟩ := r
  · show (⟨decls, none⟩ : Reading).topStep stmt = _
    rw [Reading.topStep, cutStep, cutOutside]
    cases keywordRest? "import".toList stmt with
    | some rest => exact hkeyword decls .imports rest
    | none =>
      cases keywordRest? "var".toList stmt with
      | some rest => exact hkeyword decls .vars rest
      | none =>
        simp only
        split
        · simp [readAll?]
        · simp only [readAll?_singleton]
          rfl
  · show (⟨decls, some g⟩ : Reading).groupStep g stmt = _
    rw [Reading.groupStep, cutStep, Group.cutInside]
    cases groupClose? .code 0 stmt with
    | some p =>
      obtain ⟨spec, rest⟩ := p
      simp only [Group.piece?_eq]
      rfl
    | none =>
      simp only [Group.piece?_eq]
      rfl

/-- A step leaves nothing or something shorter. -/
theorem length_cutStep (group : Option Group) (stmt : Text) :
    (cutStep group stmt).rest = [] ∨ (cutStep group stmt).rest.length < stmt.length := by
  have hkeyword : ∀ {g : Group} {word rest : Text}, keywordRest? word stmt = some rest →
      (g.cutKeyword rest).rest = [] ∨ (g.cutKeyword rest).rest.length < stmt.length := by
    intro g word rest hrest
    have hle := length_keywordRest? hrest
    rw [Group.cutKeyword]
    split
    · next inner hinner =>
      right
      have hafter := length_after? hinner
      have htrim := length_trim_le inner
      simp only [List.length_cons, List.length_nil] at hafter
      show (trim inner).length < stmt.length
      omega
    · exact .inl rfl
  cases group with
  | none =>
    rw [cutStep, cutOutside]
    split
    · next rest hrest => exact hkeyword hrest
    · split
      · next rest hrest => exact hkeyword hrest
      · split
        · exact .inl rfl
        · exact .inl rfl
  | some g =>
    rw [cutStep, Group.cutInside]
    split
    · next spec rest hclose =>
      exact .inr (Nat.lt_of_le_of_lt (length_trim_le rest) (groupClose?_length hclose))
    · exact .inl rfl

/-! ## Statements and texts -/

/-- The entries of a statement, and the group that is open behind it. -/
def cutStatement (group : Option Group) (stmt : Text) : List Entry × Option Group :=
  match stmt with
  | [] => ([], group)
  | c :: t =>
    let cut := cutStep group (c :: t)
    let later := cutStatement cut.group cut.rest
    (cut.entries ++ later.1, later.2)
termination_by stmt.length
decreasing_by
  rcases length_cutStep group (c :: t) with h | h
  · rw [h]
    exact Nat.succ_pos _
  · exact h

/-- The entries of statements in turn, and the group that is open behind them. -/
def cutStatements (group : Option Group) : List Text → List Entry × Option Group
  | [] => ([], group)
  | stmt :: stmts =>
    let cut := cutStatement group (trim stmt)
    let later := cutStatements cut.2 stmts
    (cut.1 ++ later.1, later.2)

/-- The entries of a text, and the group that is open at its end. -/
def cutText (t : Text) : List Entry × Option Group :=
  cutStatements none ((lines t).flatMap statements)

/-- The entries of a text. -/
def textEntries (t : Text) : List Entry := (cutText t).1

example : textEntries "import (\"a\"; b \"kp/b\")\nvar x int // n".toList
    = [⟨.imports, "\"a\"".toList⟩, ⟨.imports, "b \"kp/b\"".toList⟩, ⟨.vars, "x int".toList⟩] := by
  decide +kernel

/-- Reading two cuts one after the other. -/
theorem map_readAll?_append (decls : List Declaration) (es fs : List Entry)
    (group : Option Group) :
    ((readAll? es).bind fun ds => (readAll? fs).map fun ds' =>
        (⟨decls ++ ds ++ ds', group⟩ : Reading))
      = (readAll? (es ++ fs)).map fun ds => ⟨decls ++ ds, group⟩ := by
  rw [readAll?_append]
  cases readAll? es with
  | none => rfl
  | some ds =>
    cases readAll? fs with
    | none => rfl
    | some ds' => simp

/-- **To run a statement is to read its entries.** -/
theorem Reading.run_eq (r : Reading) (stmt : Text) :
    r.run stmt = (readAll? (cutStatement r.group stmt).1).map fun ds =>
      ⟨r.decls ++ ds, (cutStatement r.group stmt).2⟩ := by
  fun_induction Reading.run r stmt with
  | case1 r =>
    rw [cutStatement]
    simp [readAll?]
  | case2 r c t r' rest hstep ih =>
    rw [Reading.step_eq] at hstep
    obtain ⟨ds, hds, he⟩ := Option.map_eq_some_iff.1 hstep
    cases he
    rw [ih, cutStatement, ← map_readAll?_append, hds]
    rfl
  | case3 r c t hstep =>
    rw [Reading.step_eq, Option.map_eq_none_iff] at hstep
    rw [cutStatement, readAll?_append, hstep]
    rfl

/-- Statements in turn. -/
theorem Reading.runAll_eq (r : Reading) (stmts : List Text) :
    r.runAll stmts = (readAll? (cutStatements r.group stmts).1).map fun ds =>
      ⟨r.decls ++ ds, (cutStatements r.group stmts).2⟩ := by
  induction stmts generalizing r with
  | nil => simp [Reading.runAll, cutStatements, readAll?]
  | cons stmt stmts ih =>
    rw [Reading.runAll, List.foldlM_cons, Reading.run_eq, cutStatements, ← map_readAll?_append]
    cases readAll? (cutStatement r.group (trim stmt)).1 with
    | none => rfl
    | some ds => exact ih _

theorem Reading.foldlM_of_lines {n : Nat} {r r' : Reading} {ls : List Text}
    (h : Reading.lines n r ls = .ok r') : ls.foldlM Reading.line r = some r' := by
  induction ls generalizing n r with
  | nil =>
    cases h
    rfl
  | cons l ls ih =>
    rw [Reading.lines] at h
    split at h
    · next r₁ hline =>
      rw [List.foldlM_cons, hline]
      exact ih h
    · cases h

/-- A text is accepted if all its lines are, and no group is left open. -/
theorem parseDeclarations_ok_iff_runAll (t : Text) (ds : List Declaration) :
    parseDeclarations t = .ok ds
      ↔ ({} : Reading).runAll ((lines t).flatMap statements) = some ⟨ds, none⟩ := by
  rw [← Reading.foldlM_line]
  constructor
  · intro h
    rw [parseDeclarations] at h
    split at h
    · cases h
    · next r hlines =>
      split at h
      · next hgroup =>
        cases h
        rw [Reading.foldlM_of_lines hlines, ← hgroup]
      · cases h
  · intro h
    rw [parseDeclarations, Reading.lines_of_foldlM 1 h]

theorem parseDeclarations_ok_iff_through (t : Text) (ds : List Declaration) :
    parseDeclarations t = .ok ds ↔ ({} : Reading).through t = some ⟨ds, none⟩ := by
  constructor
  · intro h
    have hread := (parseDeclarations_ok_iff_runAll t ds).1 h
    rw [← Reading.foldlM_line, lines, List.foldlM_map] at hread
    simp only [Reading.line_chomp] at hread
    rw [Reading.foldlM_line] at hread
    exact hread
  · exact parseDeclarations_of_through

/-- **To read a text is to cut it into entries and to read them.** -/
theorem parseDeclarations_eq_ok_iff (t : Text) (ds : List Declaration) :
    parseDeclarations t = .ok ds
      ↔ (cutText t).2 = none ∧ readAll? (textEntries t) = some ds := by
  rw [parseDeclarations_ok_iff_runAll, Reading.runAll_eq, Option.map_eq_some_iff]
  constructor
  · rintro ⟨ds', hread, he⟩
    obtain ⟨hds, hgroup⟩ := Reading.mk.inj he
    obtain rfl : ds' = ds := hds
    exact ⟨hgroup, hread⟩
  · rintro ⟨hgroup, hread⟩
    exact ⟨ds, hread, congrArg (Reading.mk ds) hgroup⟩

/-! ## Characters -/

/-- The state of a scan behind a text. -/
def Go.ScanState.run (s : ScanState) (t : Text) : ScanState := t.foldl ScanState.next s

/-- The parenthesis that closes a group stands in code. -/
theorem groupClose?_eq {s : ScanState} {depth : Nat} {t front rest : Text}
    (h : groupClose? s depth t = some (front, rest)) :
    t = front ++ ')' :: rest ∧ s.run front = .code := by
  induction t generalizing s depth front with
  | nil => cases h
  | cons c t ih =>
    rw [groupClose?] at h
    split at h
    · next hclose =>
      obtain ⟨rfl, rfl, -⟩ := hclose
      cases h
      exact ⟨rfl, rfl⟩
    · obtain ⟨⟨front', rest'⟩, hfront, he⟩ := Option.map_eq_some_iff.1 h
      cases he
      obtain ⟨rfl, hrun⟩ := ih hfront
      exact ⟨rfl, hrun⟩

theorem trim_subset (t : Text) : trim t ⊆ t := by
  intro c hc
  have hstart : c ∈ trimStart t := List.mem_reverse.1
    ((List.dropWhile_suffix isBlank).subset (List.mem_reverse.1 hc))
  exact (List.dropWhile_suffix isBlank).subset hstart

theorem keywordRest?_subset {word stmt rest : Text} (h : keywordRest? word stmt = some rest) :
    rest ⊆ stmt := by
  rw [keywordRest?] at h
  split at h
  · cases h
  · cases h
  · next c t hafter =>
    have hsub : c :: t ⊆ stmt := by
      rw [eq_append_of_after? hafter]
      exact List.subset_append_right _ _
    split at h
    · cases h
      exact hsub
    · split at h
      · cases h
        exact fun d hd => hsub (List.mem_cons_of_mem c ((List.dropWhile_suffix isBlank).subset hd))
      · cases h

theorem Group.entries_subset {g : Group} {piece : Text} {e : Entry} (he : e ∈ g.entries piece) :
    e.text ⊆ piece := by
  rw [Group.entries] at he
  split at he
  · exact absurd he List.not_mem_nil
  · rw [List.mem_singleton.1 he]
    exact trim_subset piece

/-- A cut whose entries and rest are made of characters of `stmt`. -/
def Cut.Within (cut : Cut) (stmt : Text) : Prop :=
  (∀ e ∈ cut.entries, e.text ⊆ stmt) ∧ cut.rest ⊆ stmt

theorem Group.cutKeyword_within {g : Group} {word stmt rest : Text}
    (h : keywordRest? word stmt = some rest) : (g.cutKeyword rest).Within stmt := by
  have hsub := keywordRest?_subset h
  rw [Group.cutKeyword]
  split
  · next inner hinner =>
    have hinner' : inner ⊆ rest := by
      rw [eq_append_of_after? hinner]
      exact List.subset_append_right _ _
    exact ⟨List.forall_mem_nil _, fun c hc => hsub (hinner' (trim_subset inner hc))⟩
  · refine ⟨fun e he => ?_, List.nil_subset _⟩
    rw [List.mem_singleton.1 he]
    exact hsub

theorem cutStep_within (group : Option Group) (stmt : Text) : (cutStep group stmt).Within stmt := by
  cases group with
  | none =>
    rw [cutStep, cutOutside]
    split
    · next rest hrest => exact Group.cutKeyword_within hrest
    · split
      · next rest hrest => exact Group.cutKeyword_within hrest
      · split
        · exact ⟨List.forall_mem_nil _, List.nil_subset _⟩
        · refine ⟨fun e he => ?_, List.nil_subset _⟩
          rw [List.mem_singleton.1 he]
          exact List.Subset.refl _
  | some g =>
    rw [cutStep, Group.cutInside]
    split
    · next spec rest hclose =>
      rw [(groupClose?_eq hclose).1]
      refine ⟨fun e he c hc => ?_, fun c hc => ?_⟩
      · exact List.mem_append_left _ (Group.entries_subset he hc)
      · exact List.mem_append_right _ (List.mem_cons_of_mem _ (trim_subset rest hc))
    · exact ⟨fun e he => Group.entries_subset he, List.nil_subset _⟩

theorem cutStatement_subset (group : Option Group) (stmt : Text) :
    ∀ e ∈ (cutStatement group stmt).1, e.text ⊆ stmt := by
  fun_induction cutStatement group stmt with
  | case1 group => exact List.forall_mem_nil _
  | case2 group c t cut later ih =>
    obtain ⟨hentries, hrest⟩ := cutStep_within group (c :: t)
    intro e he
    rcases List.mem_append.1 he with he | he
    · exact hentries e he
    · exact List.Subset.trans (ih e he) hrest

theorem exists_statement_of_mem {group : Option Group} {stmts : List Text} {e : Entry}
    (he : e ∈ (cutStatements group stmts).1) : ∃ stmt ∈ stmts, e.text ⊆ stmt := by
  induction stmts generalizing group with
  | nil => exact absurd he List.not_mem_nil
  | cons stmt stmts ih =>
    rcases List.mem_append.1 he with he | he
    · exact ⟨stmt, List.mem_cons_self,
        List.Subset.trans (cutStatement_subset group (trim stmt) e he) (trim_subset stmt)⟩
    · obtain ⟨stmt', hstmt', hsub⟩ := ih he
      exact ⟨stmt', List.mem_cons_of_mem _ hstmt', hsub⟩

theorem splitStatements_subset (s : ScanState) (t : Text) : ∀ p ∈ splitStatements s t, p ⊆ t := by
  induction t generalizing s with
  | nil =>
    intro p hp
    rw [List.mem_singleton.1 hp]
    exact List.Subset.refl _
  | cons c t ih =>
    intro p hp
    rw [splitStatements] at hp
    split at hp
    · rcases List.mem_cons.1 hp with rfl | hp
      · exact List.nil_subset _
      · exact List.Subset.trans (ih .code p hp) (List.subset_cons_self c t)
    · obtain ⟨q, qs, hq⟩ := List.exists_cons_of_ne_nil (splitStatements_ne_nil (s.next c) t)
      have hpieces := ih (s.next c)
      rw [hq] at hp hpieces
      rcases List.mem_cons.1 hp with rfl | hp
      · exact List.cons_subset_cons c (hpieces q List.mem_cons_self)
      · exact List.Subset.trans (hpieces p (List.mem_cons_of_mem q hp)) (List.subset_cons_self c t)

theorem dropComment_subset (s : ScanState) (t : Text) : dropComment s t ⊆ t := by
  induction t generalizing s with
  | nil => exact List.Subset.refl _
  | cons c t ih =>
    rw [dropComment]
    split
    · exact List.nil_subset _
    · exact List.cons_subset_cons c (ih (s.next c))

/-- No line feed is in an entry. -/
theorem newline_not_mem_of_mem_textEntries {t : Text} {e : Entry} (he : e ∈ textEntries t) :
    '\n' ∉ e.text := by
  obtain ⟨stmt, hstmt, hsub⟩ := exists_statement_of_mem he
  obtain ⟨l, hl, hstmt⟩ := List.mem_flatMap.1 hstmt
  have hline : stmt ⊆ l := List.Subset.trans (splitStatements_subset .code _ stmt hstmt)
    (dropComment_subset .code l)
  exact fun hc => Go.newline_not_mem_lines t l hl (hline (hsub hc))

end GoTemplate
