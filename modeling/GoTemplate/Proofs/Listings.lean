/-
  Every way of writing declarations down is read back.

  A LISTING is a text of declarations as its writer sees it: statements with separators between
  them, where a statement is a package clause, a declaration behind its keyword, or a group of
  declarations in parentheses.  Between two statements, and between two declarations of a group,
  stands at least one line end or semicolon, with blanks, empty lines and comments as the writer
  likes.  It has a text and a list of declarations, and reading the text gives the list
  (`parseDeclarations_listing`).

  One thing a writer has to avoid: a comment right behind a type that ends with a slash.  The
  comment would begin at that slash (`slash_before_comment`).

  1. What one piece of a statement does to the state: opening a group, a spec in it, closing it, and
     the statements that stand alone.
  2. A series is read piece by piece (`Series.through`), in a group as well as outside.
  3. A listing is a gap, a series of statements and a gap (`Listing.through`).
-/
import GoTemplate.Proofs.Specs

namespace GoTemplate

/-! ## Listings -/

/-- A comment, from its two slashes to the line end. -/
structure Comment where
  text : Text
  newline : '\n' ∉ text

/-- What ends a statement: a semicolon, or a line end with or without a comment. -/
inductive Ending where
  | semicolon (before : Spacing)
  | newline (before : Spacing) (comment? : Option Comment)

def Ending.text : Ending → Text
  | .semicolon before => before.text ++ [';']
  | .newline before none => before.text ++ ['\n']
  | .newline before (some comment) => before.text ++ ("//".toList ++ comment.text ++ ['\n'])

/-- Any number of endings, and blanks on the last line. -/
structure Gap where
  endings : List Ending
  indent : Spacing

def Gap.text (gap : Gap) : Text := gap.endings.flatMap Ending.text ++ gap.indent.text

/-- A gap with an ending in it. -/
structure Break extends Gap where
  ends : endings ≠ []

/-- Pieces with a break behind each but the last. -/
inductive Series (α : Type) where
  | nil
  | last (a : α)
  | cons (a : α) (sep : Break) (rest : Series α)

namespace Series

variable {α : Type}

def toList : Series α → List α
  | .nil => []
  | .last a => [a]
  | .cons a _ rest => a :: rest.toList

/-- The text of a series, given that of a piece. -/
def text (f : α → Text) : Series α → Text
  | .nil => []
  | .last a => f a
  | .cons a sep rest => f a ++ (sep.text ++ rest.text f)

/-- No piece makes a comment with what stands behind it; behind the series stands `t`. -/
def apart (f : α → Text) (t : Text) : Series α → Bool
  | .nil => true
  | .last a => !meetsSlash (f a) t
  | .cons a sep rest => !meetsSlash (f a) sep.text && rest.apart f t

end Series

/-- The word before a group or a spec that stands alone. -/
def Group.keyword : Group → Text
  | .imports => "import".toList
  | .vars => "var".toList

/-- A statement outside groups.  The keyword stands apart from a spec unless that begins with a
    quote. -/
inductive Statement where
  | package (between : Spacing) (name : Text) (apart : between.text ≠ [])
      (ident : isIdentifier name = true)
  | single {g : Group} (between : Spacing) (spec : Spec g)
      (apart : between.text ≠ [] ∨ spec.text.head? = some '"')
  | group (g : Group) (between : Spacing) (lead : Gap) (specs : Series (Spec g)) (trail : Gap)

namespace Statement

def text : Statement → Text
  | .package between name _ _ => "package".toList ++ between.text ++ name
  | .single (g := g) between spec _ => g.keyword ++ between.text ++ spec.text
  | .group g between lead specs trail =>
    g.keyword ++ between.text ++ ['('] ++ lead.text ++ specs.text Spec.text ++ trail.text ++ [')']

def declarations : Statement → List Declaration
  | .package _ _ _ _ => []
  | .single _ spec _ => [spec.declaration]
  | .group _ _ _ specs _ => specs.toList.map Spec.declaration

/-- No spec of a group makes a comment with what stands behind it. -/
def apart : Statement → Bool
  | .group _ _ _ specs trail => specs.apart Spec.text (trail.text ++ [')'])
  | _ => true

end Statement

/-- A text of declarations. -/
structure Listing where
  lead : Gap
  statements : Series Statement
  trail : Gap

namespace Listing

def text (l : Listing) : Text := l.lead.text ++ (l.statements.text Statement.text ++ l.trail.text)

def declarations (l : Listing) : List Declaration :=
  l.statements.toList.flatMap Statement.declarations

/-- No comment begins right behind a slash. -/
def apart (l : Listing) : Bool :=
  l.statements.apart Statement.text l.trail.text && l.statements.toList.all Statement.apart

end Listing

/-! ## Gaps -/

theorem Ending.separates (e : Ending) : Separates e.text := by
  match e with
  | .semicolon before => exact before.separates separates_semicolon
  | .newline before none => exact before.separates separates_newline
  | .newline before (some comment) => exact before.separates (separates_comment comment.newline)

theorem Gap.through (gap : Gap) (r : Reading) (t : Text) :
    r.through (gap.text ++ t) = r.through t := by
  obtain ⟨endings, indent⟩ := gap
  rw [Gap.text]
  induction endings with
  | nil => exact indent.through r t
  | cons e endings ih =>
    rw [List.flatMap_cons, List.append_assoc, List.append_assoc, e.separates.passes]
    rwa [List.append_assoc] at ih

theorem Gap.firstStatement_of_ends {gap : Gap} (h : gap.endings ≠ []) (t : Text) :
    trim (firstStatement (gap.text ++ t)) = [] := by
  obtain ⟨endings, indent⟩ := gap
  obtain ⟨e, endings, rfl⟩ := List.exists_cons_of_ne_nil h
  rw [Gap.text, List.flatMap_cons, List.append_assoc, List.append_assoc, e.separates.ends]

/-- Before anything, a gap without an ending is only its blanks. -/
theorem Gap.firstStatement_of_no_ends {gap : Gap} (h : gap.endings = []) (t : Text) :
    firstStatement (gap.text ++ t) = gap.indent.text ++ firstStatement t := by
  rw [Gap.text, h]
  exact (textStatements_append gap.indent.settled (gap.indent.meetsSlash t)).1

/-! ## One piece of a statement -/

/-- What may stand behind a spec in its statement: nothing, or the parenthesis that closes. -/
inductive EndsSpec : Text → Prop
  | blank {p : Text} : trim p = [] → EndsSpec p
  | close (b : Spacing) (p : Text) : EndsSpec (b.text ++ ')' :: p)

/-- A word stands before a group or a spec, with blanks unless a parenthesis or a quote follows. -/
theorem keywordRest?_append (word : Text) (b : Spacing) {u : Text} (hne : u ≠ [])
    (hu : trimStart u = u) (h : b.text ≠ [] ∨ u.head? = some '(' ∨ u.head? = some '"') :
    keywordRest? word (word ++ b.text ++ u) = some u := by
  rw [keywordRest?, List.append_assoc, after?_append]
  cases hb : b.text with
  | nil =>
    obtain ⟨c, t, rfl⟩ := List.exists_cons_of_ne_nil hne
    have hc : c = '(' ∨ c = '"' ∨ c = '\x60' := by
      rcases h with h | h | h
      · exact absurd hb h
      · exact .inl (Option.some.inj h)
      · exact .inr (.inl (Option.some.inj h))
    exact if_pos hc
  | cons c rest =>
    have hblank : ∀ d ∈ c :: rest, isBlank d = true := hb ▸ b.blank
    obtain ⟨hc, hrest⟩ := List.forall_mem_cons.1 hblank
    have hmark : ¬(c = '(' ∨ c = '"' ∨ c = '\x60') := by
      rintro (rfl | rfl | rfl) <;> exact absurd hc (by decide)
    show (if c = '(' ∨ c = '"' ∨ c = '\x60' then some (c :: (rest ++ u))
      else if isBlank c then some (trimStart (rest ++ u)) else none) = some u
    rw [if_neg hmark, if_pos hc, trimStart_blank_append hrest, hu]

theorem Group.keyword_plain (g : Group) : ∀ c ∈ g.keyword, c ∉ marks := by
  refine List.all_iff_forall_prop.1 ?_
  cases g <;> decide

theorem Group.keyword_tight (g : Group) : Tight g.keyword := by
  cases g with
  | imports => exact tight_of_all (by decide) (by decide)
  | vars => exact tight_of_all (by decide) (by decide)

theorem Group.piece?_of_tight (g : Group) {t u : Text} (hu : Tight u) (ht : trim t = u) :
    g.piece? t = g.spec? u := by
  have hne : u.isEmpty = false := by simpa using hu.ne_nil
  rw [Group.piece?, ht, hne, if_neg Bool.false_ne_true]

namespace Reading

variable {r : Reading} {g : Group}

theorem step_outside (hr : r.group = none) (stmt : Text) : r.step stmt = r.topStep stmt := by
  rw [step, hr]

theorem step_inside (hr : r.group = some g) (stmt : Text) : r.step stmt = r.groupStep g stmt := by
  rw [step, hr]

theorem topStep_keyword (r : Reading) (g : Group) {t u : Text}
    (h : keywordRest? g.keyword (g.keyword ++ t) = some u) :
    r.topStep (g.keyword ++ t) = r.openOrSpec g u := by
  cases g with
  | imports =>
    have himport : keywordRest? "import".toList (Group.imports.keyword ++ t) = some u := h
    rw [topStep, himport]
  | vars =>
    have himport : keywordRest? "import".toList (Group.vars.keyword ++ t) = none := rfl
    have hvar : keywordRest? "var".toList (Group.vars.keyword ++ t) = some u := h
    rw [topStep, himport, hvar]

/-- A statement that one step takes whole. -/
theorem run_whole {f : Option Reading} {u p : Text} (hu : Tight u) (hp : trim p = [])
    (h : r.step u = f.map (·, [])) : r.run (trim (u ++ p)) = f.bind (·.run (trim p)) := by
  rw [hu.trim_append, trimEnd_of_trim hp, List.append_nil, hp, r.run_step hu.ne_nil, h,
    Option.bind_map]
  rfl

/-- A keyword and a parenthesis open a group. -/
theorem run_open (hr : r.group = none) (b : Spacing) (p : Text) :
    r.run (trim (g.keyword ++ b.text ++ ['('] ++ p)) = { r with group := some g }.run (trim p) := by
  have hparen : Tight ['('] := tight_of_all (by decide) (by decide)
  rw [(g.keyword_tight.append hparen b.text).trim_append, ← trim_trimEnd p]
  generalize trimEnd p = q
  have hstart : trimStart ('(' :: q) = '(' :: q := rfl
  have hrest := keywordRest?_append g.keyword b (List.cons_ne_nil '(' q) hstart (.inr (.inl rfl))
  have hstmt : g.keyword ++ b.text ++ ['('] ++ q = g.keyword ++ (b.text ++ '(' :: q) := by simp
  rw [hstmt]
  rw [List.append_assoc] at hrest
  refine run_of_step (by simp) ?_
  rw [step_outside hr]
  exact topStep_keyword r g hrest

/-- A parenthesis closes the group. -/
theorem run_close (hr : r.group = some g) (p : Text) :
    r.run (trim (')' :: p)) = { r with group := none }.run (trim p) := by
  have hparen : Tight [')'] := tight_of_all (by decide) (by decide)
  have htrim : trim (')' :: p) = ')' :: trimEnd p := hparen.trim_append p
  rw [htrim, ← trim_trimEnd p]
  generalize trimEnd p = q
  have hclose : groupClose? .code 0 (')' :: q) = some ([], q) := rfl
  have hpiece : g.piece? [] = some [] := rfl
  refine run_of_step (List.cons_ne_nil _ _) ?_
  rw [step_inside hr, groupStep, hclose]
  simp only [hpiece, Option.map_some, add, List.append_nil]

/-- A piece of a group adds what it declares, or stops the reader. -/
theorem run_piece (hr : r.group = some g) {u : Text} (hu : Uncut u) {p : Text} (hp : EndsSpec p) :
    r.run (trim (u ++ p)) = (g.spec? u).bind fun ds => (r.add ds).run (trim p) := by
  have hskip := groupClose?_append hu.settled.scan hu.brackets
  cases hp with
  | blank hp =>
    have hopen : groupClose? .code 0 u = none := by simpa [groupClose?] using hskip []
    have hstep : r.step u = ((g.spec? u).map r.add).map (·, []) := by
      rw [step_inside hr, groupStep, hopen, Option.map_map]
      simp only [g.piece?_of_tight hu.tight hu.tight.trim]
      rfl
    rw [run_whole hu.tight hp hstep, Option.bind_map]
    rfl
  | close b q =>
    -- the text in front of the parenthesis is the spec and the blanks behind it
    have hparen : groupClose? .code 0 (')' :: trimEnd q) = some ([], trimEnd q) := rfl
    have hclose : groupClose? .code 0 (u ++ (b.text ++ ')' :: trimEnd q))
        = some (u ++ b.text, trimEnd q) := by
      rw [hskip, groupClose?_append b.settled.scan (balanced_of_plain b.plain), hparen,
        Option.map_some, Option.map_some]
      simp
    have htrim : trim (u ++ b.text) = u := (trim_append_blank b.blank u).trans hu.tight.trim
    have hstep : r.step (u ++ (b.text ++ ')' :: trimEnd q))
        = (g.spec? u).map fun ds => ({ r.add ds with group := none }, trim q) := by
      rw [step_inside hr, groupStep, hclose]
      simp only [g.piece?_of_tight hu.tight htrim, trim_trimEnd]
    rw [hu.tight.trim_append, trimEnd_append_cons (by decide),
      r.run_step (by simp [hu.tight.ne_nil]), hstep, Option.bind_map]
    refine congrArg _ (funext fun ds => ?_)
    rw [trim_blank_append b.blank, run_close (r := r.add ds) hr]
    rfl

/-- A spec in a group adds its declaration. -/
theorem run_spec (hr : r.group = some g) {u : Text} {d : Declaration} (hu : Reads g u d) {p : Text}
    (hp : EndsSpec p) : r.run (trim (u ++ p)) = (r.add [d]).run (trim p) := by
  rw [run_piece hr hu.toUncut hp, hu.spec]
  rfl

/-- A text behind a keyword adds what it declares, or stops the reader. -/
theorem run_behind (hr : r.group = none) (b : Spacing) {u : Text} (hu : Uncut u)
    (hparen : u.head? ≠ some '(') (hb : b.text ≠ [] ∨ u.head? = some '"') {p : Text}
    (hp : trim p = []) :
    r.run (trim (g.keyword ++ b.text ++ u ++ p))
      = (g.spec? u).bind fun ds => (r.add ds).run (trim p) := by
  have hrest := keywordRest?_append g.keyword b hu.tight.ne_nil hu.tight.start (hb.imp_right .inr)
  have hafter : after? ['('] u = none := by
    obtain ⟨c, t, rfl⟩ := List.exists_cons_of_ne_nil hu.tight.ne_nil
    exact if_neg fun h => hparen (congrArg some h.symm)
  have hstep : r.step (g.keyword ++ b.text ++ u) = ((g.spec? u).map r.add).map (·, []) := by
    rw [List.append_assoc] at hrest ⊢
    rw [step_outside hr, topStep_keyword r g hrest, openOrSpec, hafter, Option.map_map]
    rfl
  rw [run_whole (g.keyword_tight.append hu.tight b.text) hp hstep, Option.bind_map]
  rfl

/-- A spec behind its keyword adds its declaration. -/
theorem run_single (hr : r.group = none) (b : Spacing) {u : Text} {d : Declaration}
    (hu : Reads g u d) (hb : b.text ≠ [] ∨ u.head? = some '"') {p : Text} (hp : trim p = []) :
    r.run (trim (g.keyword ++ b.text ++ u ++ p)) = (r.add [d]).run (trim p) := by
  rw [run_behind hr b hu.toUncut hu.paren hb hp, hu.spec]
  rfl

/-- A package clause adds nothing. -/
theorem run_package (hr : r.group = none) (b : Spacing) (hb : b.text ≠ []) {name : Text}
    (hname : isIdentifier name = true) {p : Text} (hp : trim p = []) :
    r.run (trim ("package".toList ++ b.text ++ name ++ p)) = r.run (trim p) := by
  have hword : Tight "package".toList := tight_of_all (by decide) (by decide)
  have hident := tight_of_isIdentifier hname
  have hrest := keywordRest?_append "package".toList b hident.ne_nil hident.start (.inl hb)
  have himport : keywordRest? "import".toList ("package".toList ++ (b.text ++ name)) = none := rfl
  have hvar : keywordRest? "var".toList ("package".toList ++ (b.text ++ name)) = none := rfl
  refine run_whole (f := some r) (hword.append hident b.text) hp ?_
  rw [List.append_assoc] at hrest ⊢
  rw [step_outside hr, topStep, himport, hvar, hrest]
  exact if_pos hname

end Reading

/-! ## Pieces along the text -/

/-- A keyword and a parenthesis open a group. -/
theorem Reading.through_open {r : Reading} (hr : r.group = none) (g : Group) (b : Spacing)
    (t : Text) :
    r.through (g.keyword ++ b.text ++ ['('] ++ t) = { r with group := some g }.through t := by
  have hfront := b.plain_append g.keyword_plain
  have hparen : Settled ['('] := ⟨by decide, by decide⟩
  have hmeet : meetsSlash (g.keyword ++ b.text ++ ['(']) t = false := by
    rw [meetsSlash, List.getLast?_concat]
    rfl
  exact Reading.through_append
    ((settled_of_plain hfront).append hparen (meetsSlash_of_plain hfront _)) hmeet
    (Reading.run_open hr b _)

/-- A parenthesis closes the group. -/
theorem Reading.through_close {r : Reading} {g : Group} (hr : r.group = some g) (t : Text) :
    r.through ([')'] ++ t) = { r with group := none }.through t :=
  Reading.through_append ⟨by decide, by decide⟩ rfl (Reading.run_close hr _)

/-- A spec in a group adds its declaration, if something behind it ends it. -/
theorem Spec.through {g : Group} (s : Spec g) (h : s.declaration.Writable) {r : Reading}
    (hr : r.group = some g) {t : Text} (ht : EndsSpec (firstStatement t))
    (hmeet : meetsSlash s.text t = false) :
    r.through (s.text ++ t) = (r.add [s.declaration]).through t :=
  Reading.through_append (s.reads h).settled hmeet (Reading.run_spec hr (s.reads h) ht)

/-- The gap before the closing parenthesis ends a spec, with an ending or without. -/
theorem Gap.endsSpec (gap : Gap) (t : Text) :
    EndsSpec (firstStatement (gap.text ++ ([')'] ++ t))) := by
  by_cases he : gap.endings = []
  · have hclose : Settled [')'] := ⟨by decide, by decide⟩
    rw [gap.firstStatement_of_no_ends he, (textStatements_append hclose rfl).1]
    exact .close _ _
  · exact .blank (Gap.firstStatement_of_ends he _)

/-! ## Series -/

theorem Reading.add_nil (r : Reading) : r.add [] = r := by rw [Reading.add, List.append_nil]

theorem Reading.add_add (r : Reading) (ds es : List Declaration) :
    (r.add ds).add es = r.add (ds ++ es) := by
  rw [Reading.add, Reading.add, Reading.add, List.append_assoc]

theorem Ending.text_ne_nil (e : Ending) : e.text ≠ [] := by
  match e with
  | .semicolon _ => simp [Ending.text]
  | .newline _ none => simp [Ending.text]
  | .newline _ (some _) => simp [Ending.text]

theorem Break.head?_append (sep : Break) (t : Text) : (sep.text ++ t).head? = sep.text.head? := by
  have hne : sep.text ≠ [] := by
    obtain ⟨e, endings, he⟩ := List.exists_cons_of_ne_nil sep.ends
    simp [Gap.text, he, e.text_ne_nil]
  obtain ⟨c, rest, hc⟩ := List.exists_cons_of_ne_nil hne
  rw [hc]
  rfl

theorem Series.apart_congr {α : Type} {f : α → Text} {t t' : Text} (h : t.head? = t'.head?)
    (s : Series α) : s.apart f t = s.apart f t' := by
  induction s with
  | nil => rfl
  | last a => rw [apart, apart, meetsSlash, meetsSlash, h]
  | cons a sep rest ih => rw [apart, apart, ih]

/-- **A series is read piece by piece.**  Say that in group `g?`, a piece `a` with something behind
    it that ends it adds what `a` declares.  Then the series adds what its pieces declare. -/
theorem Series.through {α : Type} {f : α → Text} {ds : α → List Declaration}
    (Ends : Text → Prop) (hbreak : ∀ (sep : Break) (t : Text), Ends (sep.text ++ t))
    {g? : Option Group} {s : Series α}
    (hpiece : ∀ a ∈ s.toList, ∀ (r : Reading) (t : Text), r.group = g? → Ends t →
      meetsSlash (f a) t = false → r.through (f a ++ t) = (r.add (ds a)).through t)
    {r : Reading} (hr : r.group = g?) {t : Text} (ht : Ends t) (hapart : s.apart f t = true) :
    r.through (s.text f ++ t) = (r.add (s.toList.flatMap ds)).through t := by
  induction s generalizing r with
  | nil => rw [toList, List.flatMap_nil, Reading.add_nil]; rfl
  | last a =>
    have ha := hpiece a List.mem_cons_self r t hr ht (by simpa [apart] using hapart)
    rw [toList, List.flatMap_singleton]
    exact ha
  | cons a sep rest ih =>
    obtain ⟨ha, hrest⟩ := Bool.and_eq_true_iff.1 hapart
    obtain ⟨hpiece, hpieces⟩ := List.forall_mem_cons.1 hpiece
    have hmeet : meetsSlash (f a) (sep.text ++ (rest.text f ++ t)) = false := by
      have hsep : meetsSlash (f a) sep.text = false := by simpa using ha
      rwa [meetsSlash, sep.head?_append]
    calc r.through ((Series.cons a sep rest).text f ++ t)
        = r.through (f a ++ (sep.text ++ (rest.text f ++ t))) := by simp [text]
      _ = (r.add (ds a)).through (sep.text ++ (rest.text f ++ t)) :=
        hpiece r _ hr (hbreak sep _) hmeet
      _ = (r.add (ds a)).through (rest.text f ++ t) := sep.through _ _
      _ = ((r.add (ds a)).add (rest.toList.flatMap ds)).through t := ih hpieces hr hrest
      _ = (r.add ((Series.cons a sep rest).toList.flatMap ds)).through t := by
        rw [Reading.add_add, toList, List.flatMap_cons]

/-! ## Statements -/

/-- A group adds what its specs declare. -/
theorem Reading.through_group {r : Reading} (hr : r.group = none) (g : Group) (b : Spacing)
    (lead : Gap) {specs : Series (Spec g)} (trail : Gap)
    (hspecs : ∀ s ∈ specs.toList, s.declaration.Writable)
    (hapart : specs.apart Spec.text (trail.text ++ [')']) = true) (t : Text) :
    r.through ((Statement.group g b lead specs trail).text ++ t)
      = (r.add (specs.toList.map Spec.declaration)).through t := by
  have hapart' : specs.apart Spec.text (trail.text ++ ([')'] ++ t)) = true := by
    rw [← hapart]
    refine Series.apart_congr ?_ specs
    cases trail.text <;> rfl
  let opened : Reading := { r with group := some g }
  let filled : Reading := opened.add (specs.toList.map Spec.declaration)
  have hseries := Series.through (r := opened) (fun t => EndsSpec (firstStatement t))
    (fun sep t => .blank (Gap.firstStatement_of_ends sep.ends t))
    (fun s hs _ _ hr ht hmeet => s.through (hspecs s hs) hr ht hmeet) rfl (trail.endsSpec t) hapart'
  rw [← List.map_eq_flatMap] at hseries
  have hclosed : { filled with group := none } = r.add (specs.toList.map Spec.declaration) := by
    simp only [filled, opened, Reading.add, hr]
  calc r.through ((Statement.group g b lead specs trail).text ++ t)
      = r.through (g.keyword ++ b.text ++ ['(']
          ++ (lead.text ++ (specs.text Spec.text ++ (trail.text ++ ([')'] ++ t))))) := by
        show r.through (g.keyword ++ b.text ++ ['('] ++ lead.text ++ specs.text Spec.text
          ++ trail.text ++ [')'] ++ t) = _
        simp only [List.append_assoc]
    _ = opened.through (lead.text ++ (specs.text Spec.text ++ (trail.text ++ ([')'] ++ t)))) :=
        Reading.through_open hr g b _
    _ = opened.through (specs.text Spec.text ++ (trail.text ++ ([')'] ++ t))) := lead.through _ _
    _ = filled.through (trail.text ++ ([')'] ++ t)) := hseries
    _ = filled.through ([')'] ++ t) := trail.through _ _
    _ = { filled with group := none }.through t := Reading.through_close rfl t
    _ = (r.add (specs.toList.map Spec.declaration)).through t := by rw [hclosed]

/-- A statement adds what it declares, if something behind it ends it. -/
theorem Statement.through {r : Reading} (hr : r.group = none) (s : Statement)
    (hwritable : ∀ d ∈ s.declarations, d.Writable) (hapart : s.apart = true) {t : Text}
    (ht : trim (firstStatement t) = []) (hmeet : meetsSlash s.text t = false) :
    r.through (s.text ++ t) = (r.add s.declarations).through t := by
  cases s with
  | package between name apart ident =>
    have hplain := plain_of_isIdentifier ident
    have hword : ∀ c ∈ "package".toList, c ∉ marks := List.all_iff_forall_prop.1 (by decide)
    have hname : Uncut name :=
      ⟨settled_of_plain hplain, balanced_of_plain hplain, tight_of_isIdentifier ident⟩
    have hpiece := hname.prepend hword (tight_of_all (by decide) (by decide)) between
    rw [Statement.declarations, Reading.add_nil]
    exact Reading.through_append hpiece.settled hmeet
      (Reading.run_package hr between apart ident ht)
  | @single g between spec apart =>
    have hreads := spec.reads (hwritable _ List.mem_cons_self)
    have hpiece := hreads.toUncut.prepend g.keyword_plain g.keyword_tight between
    exact Reading.through_append hpiece.settled hmeet
      (Reading.run_single hr between hreads apart ht)
  | group g between lead specs trail =>
    refine Reading.through_group hr g between lead trail (fun s hs => ?_) hapart t
    exact hwritable _ (List.mem_map_of_mem hs)

/-! ## Whole listings -/

/-- The reader along a whole listing. -/
theorem Listing.through (l : Listing) (hwritable : ∀ d ∈ l.declarations, d.Writable)
    (hapart : l.apart = true) : ({} : Reading).through l.text = some ⟨l.declarations, none⟩ := by
  obtain ⟨hseries, hstatements⟩ := Bool.and_eq_true_iff.1 hapart
  have hends : trim (firstStatement (l.trail.text ++ [])) = [] := by
    by_cases he : l.trail.endings = []
    · rw [l.trail.firstStatement_of_no_ends he, trim_blank_append l.trail.indent.blank]
      rfl
    · exact Gap.firstStatement_of_ends he []
  rw [List.append_nil] at hends
  have hpiece : ∀ s ∈ l.statements.toList, ∀ (r : Reading) (t : Text), r.group = none →
      trim (firstStatement t) = [] → meetsSlash s.text t = false →
      r.through (s.text ++ t) = (r.add s.declarations).through t := by
    intro s hs r t hr ht hmeet
    have hs' : ∀ d ∈ s.declarations, d.Writable := fun d hd =>
      hwritable d (List.mem_flatMap.2 ⟨s, hs, hd⟩)
    exact s.through hr hs' (List.all_eq_true.1 hstatements s hs) ht hmeet
  calc ({} : Reading).through l.text
      = ({} : Reading).through (l.statements.text Statement.text ++ l.trail.text) :=
        l.lead.through _ _
    _ = (({} : Reading).add l.declarations).through l.trail.text :=
        Series.through (fun t => trim (firstStatement t) = [])
          (fun sep t => Gap.firstStatement_of_ends sep.ends t) hpiece rfl hends hseries
    _ = (({} : Reading).add l.declarations).through (l.trail.text ++ []) := by rw [List.append_nil]
    _ = (({} : Reading).add l.declarations).through [] := l.trail.through _ _
    _ = some ⟨l.declarations, none⟩ := rfl

/-! ## Every list has a listing -/

def Spacing.empty : Spacing := ⟨[], nofun, nofun⟩

def Spacing.space : Spacing := ⟨[' '], List.all_iff_forall_prop.1 rfl, by decide⟩

/-- One line end. -/
def Break.line : Break := ⟨⟨[.newline .empty none], .empty⟩, List.cons_ne_nil _ _⟩

/-- A declaration behind its keyword. -/
def Statement.ofDeclaration : Declaration → Statement
  | .importing i => .single .space (.importing i .space) (.inl (List.cons_ne_nil _ _))
  | .param p =>
    .single .space (.param p .space (List.cons_ne_nil _ _)) (.inl (List.cons_ne_nil _ _))

/-- One declaration a line. -/
def Series.ofDeclarations : List Declaration → Series Statement
  | [] => .nil
  | d :: ds => .cons (.ofDeclaration d) .line (ofDeclarations ds)

def Listing.ofDeclarations (ds : List Declaration) : Listing :=
  ⟨⟨[], .empty⟩, .ofDeclarations ds, ⟨[], .empty⟩⟩

theorem Listing.declarations_ofDeclarations (ds : List Declaration) :
    (Listing.ofDeclarations ds).declarations = ds := by
  show (Series.ofDeclarations ds).toList.flatMap Statement.declarations = ds
  induction ds with
  | nil => rfl
  | cons d ds ih =>
    rw [Series.ofDeclarations, Series.toList, List.flatMap_cons, ih]
    cases d <;> rfl

theorem Listing.apart_ofDeclarations (ds : List Declaration) :
    (Listing.ofDeclarations ds).apart = true := by
  have hline : ∀ u, meetsSlash u Break.line.text = false := fun _ => Bool.and_false _
  have hseries : ∀ ds, (Series.ofDeclarations ds).apart Statement.text [] = true := by
    intro ds
    induction ds with
    | nil => rfl
    | cons d ds ih => rw [Series.ofDeclarations, Series.apart, hline, ih]; rfl
  have hstatements : ∀ ds, (Series.ofDeclarations ds).toList.all Statement.apart = true := by
    intro ds
    induction ds with
    | nil => rfl
    | cons d ds ih =>
      rw [Series.ofDeclarations, Series.toList, List.all_cons, ih]
      cases d <;> rfl
  exact Bool.and_eq_true_iff.2 ⟨hseries ds, hstatements ds⟩

/-- **Declarations are read back from every listing of them.**  Any list of declarations that can be
    written has a listing, and the text of each of its listings is read as that list, if no comment
    begins right behind a type that ends with a slash. -/
theorem parseDeclarations_listing (ds : List Declaration) (hds : ∀ d ∈ ds, d.Writable) :
    (∃ l : Listing, l.declarations = ds ∧ l.apart = true)
      ∧ ∀ l : Listing, l.declarations = ds → l.apart = true →
        parseDeclarations l.text = .ok ds := by
  refine ⟨⟨.ofDeclarations ds, Listing.declarations_ofDeclarations ds,
    Listing.apart_ofDeclarations ds⟩, ?_⟩
  rintro l rfl hapart
  exact parseDeclarations_of_through (l.through hds hapart)

/-- A package clause, a group of imports over three lines with a comment and a semicolon, a group
    of variables on one line, and a variable on its own, with brackets and a literal in types. -/
def mixedListing : Listing where
  lead := ⟨[.newline .empty (some ⟨" head".toList, by decide⟩)], .empty⟩
  statements :=
    .cons (.package .space "tpl".toList (by decide) (by decide))
      ⟨⟨[.semicolon .empty], .space⟩, nofun⟩ <|
    .cons
      (.group .imports .space ⟨[.newline .space (some ⟨" std".toList, by decide⟩)], .space⟩
        (.cons (.importing ⟨none, "\"fmt\"".toList⟩ .empty) ⟨⟨[.semicolon .empty], .empty⟩, nofun⟩
          (.last (.importing ⟨some ".".toList, "\"a/b\"".toList⟩ .empty)))
        ⟨[.newline .empty none], .empty⟩) .line <|
    .cons
      (.group .vars .empty ⟨[], .empty⟩
        (.cons (.param ⟨"f".toList, "func(a, b [2]int) (x)".toList⟩ .space (by decide))
          ⟨⟨[.semicolon .space], .space⟩, nofun⟩
          (.last (.param ⟨"s".toList, "struct \x7bn int \"); //\"\x7d".toList⟩ .space (by decide))))
        ⟨[], .space⟩) .line <|
    .last (.single (g := .vars) .space (.param ⟨"x".toList, "a/".toList⟩ .space (by decide))
      (.inl (by decide)))
  trail := ⟨[.newline .space (some ⟨"".toList, by decide⟩)], .empty⟩

/-- The declarations of `mixedListing`. -/
def mixedDeclarations : List Declaration :=
  [.importing ⟨none, "\"fmt\"".toList⟩, .importing ⟨some ".".toList, "\"a/b\"".toList⟩,
    .param ⟨"f".toList, "func(a, b [2]int) (x)".toList⟩,
    .param ⟨"s".toList, "struct \x7bn int \"); //\"\x7d".toList⟩,
    .param ⟨"x".toList, "a/".toList⟩]

/-- The text of `mixedListing` and what is read from it. -/
theorem parseDeclarations_mixedListing :
    mixedListing.text = ("// head\npackage tpl; import ( // std\n \"fmt\";.\"a/b\"\n)\n"
        ++ "var(f func(a, b [2]int) (x) ; s struct \x7bn int \"); //\"\x7d )\nvar x a/ //\n").toList
      ∧ (∀ d ∈ mixedDeclarations, d.Writable) ∧ mixedListing.declarations = mixedDeclarations
      ∧ mixedListing.apart = true
      ∧ parseDeclarations mixedListing.text = .ok mixedDeclarations := by
  have hwritable : ∀ d ∈ mixedDeclarations, d.Writable := by
    have hfmt : Import.Writable ⟨none, "\"fmt\"".toList⟩ :=
      ⟨by decide, "fmt".toList, by decide, by decide, List.all_iff_forall_prop.1 (by decide)⟩
    have hdot : Import.Writable ⟨some ".".toList, "\"a/b\"".toList⟩ :=
      ⟨by decide, "a/b".toList, by decide, by decide, List.all_iff_forall_prop.1 (by decide)⟩
    have hfunc : Param.Writable ⟨"f".toList, "func(a, b [2]int) (x)".toList⟩ := by decide +kernel
    have hstruct : Param.Writable ⟨"s".toList, "struct \x7bn int \"); //\"\x7d".toList⟩ := by
      decide +kernel
    have hslash : Param.Writable ⟨"x".toList, "a/".toList⟩ := by decide +kernel
    intro d hd
    simp only [mixedDeclarations, List.mem_cons, List.not_mem_nil, or_false] at hd
    rcases hd with rfl | rfl | rfl | rfl | rfl
    · exact hfmt
    · exact hdot
    · exact hfunc
    · exact hstruct
    · exact hslash
  have hdeclarations : mixedListing.declarations = mixedDeclarations := by decide
  have hapart : mixedListing.apart = true := by decide
  exact ⟨by decide +kernel, hwritable, hdeclarations, hapart,
    (parseDeclarations_listing mixedDeclarations hwritable).2 mixedListing hdeclarations hapart⟩

/-- A type that ends with a slash, and a comment right behind it. -/
def slashListing : Listing where
  lead := ⟨[], .empty⟩
  statements := .cons (.ofDeclaration (.param ⟨"x".toList, "a/".toList⟩))
    ⟨⟨[.newline .empty (some ⟨" c".toList, by decide⟩)], .empty⟩, nofun⟩ .nil
  trail := ⟨[], .empty⟩

/-- **A comment right behind a slash begins at that slash**, so the listing is not read back. -/
theorem slash_before_comment :
    slashListing.text = "var x a/// c\n".toList
      ∧ slashListing.declarations = [.param ⟨"x".toList, "a/".toList⟩]
      ∧ (∀ d ∈ slashListing.declarations, d.Writable)
      ∧ parseDeclarations slashListing.text = .ok [.param ⟨"x".toList, "a".toList⟩]
      ∧ parseDeclarations slashListing.text ≠ .ok slashListing.declarations := by
  have hwritable : ∀ d ∈ slashListing.declarations, d.Writable := by
    intro d hd
    rw [List.mem_singleton.1 hd]
    show Param.Writable ⟨"x".toList, "a/".toList⟩
    decide +kernel
  exact ⟨by decide, by decide, hwritable, by decide +kernel, by decide +kernel⟩

end GoTemplate
