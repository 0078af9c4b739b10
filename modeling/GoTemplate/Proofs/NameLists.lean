/-
  Names without a type.

  The names of a variable spec are read as far as a type is left.  A list of names WITHOUT a type
  gives up its last names until a comma with a blank in front of it can pass for one.

  1. A list of names alone is no spec exactly if no comma in it has a blank in front of it
     (`NameList.varSpec?_eq_none_iff`).
  2. A list may go on over several lines; the first of them is a list again, perhaps with a comma
     behind it (`exists_first_line`).
  3. Behind its keyword as well as in a group, one piece is read alone (`VarPlace.through_eq`).  So
     a list is refused if its first line is unspaced, and on one line no other is refused
     (`NameList.rejected_of_unspaced`, `NameList.unspaced_of_rejected`).
-/
import GoTemplate.Proofs.Listings
import GoTemplate.Proofs.SpecShapes

namespace GoTemplate

/-! ## Lists of names -/

/-- A comma and a name, with any white space around the comma. -/
structure FurtherName where
  before : Text
  after : Text
  name : Text
  before_blank : ∀ c ∈ before, isBlank c = true
  after_blank : ∀ c ∈ after, isBlank c = true
  ident : isIdentifier name = true

def FurtherName.text (n : FurtherName) : Text := n.before ++ ',' :: (n.after ++ n.name)

/-- Names with commas between them. -/
structure NameList where
  first : Text
  ident : isIdentifier first = true
  further : List FurtherName

namespace NameList

def text (l : NameList) : Text := l.first ++ l.further.flatMap FurtherName.text

end NameList

/-- No comma on the first line of a list has a blank in front of it. -/
def Unspaced : List FurtherName → Prop
  | [] => True
  | n :: ns => '\n' ∈ n.before ∨ n.before = [] ∧ ('\n' ∈ n.after ∨ Unspaced ns)

theorem FurtherName.newline_not_mem_text (n : FurtherName) :
    '\n' ∉ n.text ↔ '\n' ∉ n.before ∧ '\n' ∉ n.after := by
  have hname : '\n' ∉ n.name := fun hmem =>
    absurd (isIdentRest_of_isIdentifier n.ident _ hmem) (by decide)
  simp [FurtherName.text, hname]

/-- If there is one line only, these are all commas. -/
theorem unspaced_iff {ns : List FurtherName} (h : '\n' ∉ ns.flatMap FurtherName.text) :
    Unspaced ns ↔ ∀ n ∈ ns, n.before = [] := by
  induction ns with
  | nil => exact iff_of_true trivial (List.forall_mem_nil _)
  | cons n ns ih =>
    rw [List.flatMap_cons, List.mem_append, not_or] at h
    obtain ⟨hbefore, hafter⟩ := n.newline_not_mem_text.1 h.1
    rw [Unspaced, or_iff_right hbefore, or_iff_right hafter, ih h.2, List.forall_mem_cons]

/-- What stands in a list of names. -/
def isListed (c : Char) : Bool := isBlank c || c == ',' || isIdentRest c

theorem isListed_of_isIdentifier {n : Text} (h : isIdentifier n = true) :
    ∀ c ∈ n, isListed c = true := fun c hc => by
  rw [isListed, isIdentRest_of_isIdentifier h c hc, Bool.or_true]

theorem FurtherName.isListed_of_mem {ns : List FurtherName} :
    ∀ c ∈ ns.flatMap FurtherName.text, isListed c = true := by
  intro c hc
  obtain ⟨n, -, hc⟩ := List.mem_flatMap.1 hc
  rcases List.mem_append.1 hc with hc | hc
  · rw [isListed, n.before_blank c hc]
    rfl
  · rcases List.mem_cons.1 hc with rfl | hc
    · rfl
    · rcases List.mem_append.1 hc with hc | hc
      · rw [isListed, n.after_blank c hc]
        rfl
      · exact isListed_of_isIdentifier n.ident c hc

theorem equals_not_mem {u : Text} (h : ∀ c ∈ u, isListed c = true) : '=' ∉ u :=
  fun hmem => absurd (h '=' hmem) (by decide)

theorem plain_of_isListed {u : Text} (h : ∀ c ∈ u, isListed c = true) (hnewline : '\n' ∉ u) :
    ∀ c ∈ u, c ∉ marks := by
  intro c hc hmark
  have hmarks : ∀ m ∈ marks, m = '\n' ∨ isListed m = false := List.all_iff_forall_prop.1 (by decide)
  rcases hmarks c hmark with rfl | hlisted
  · exact hnewline hc
  · exact Bool.false_ne_true (hlisted.symm.trans (h c hc))

section

variable {tail : Text}

/-- Behind a name of the list, nothing goes on with it. -/
theorem FurtherName.ends_name (htail : ∀ c ∈ tail.head?, isIdentRest c = false)
    (ns : List FurtherName) :
    ∀ c ∈ (ns.flatMap FurtherName.text ++ tail).head?, isIdentRest c = false := by
  cases ns with
  | nil => exact htail
  | cons n ns =>
    intro c hc
    rw [List.flatMap_cons, FurtherName.text] at hc
    cases hbefore : n.before with
    | nil =>
      rw [hbefore] at hc
      obtain rfl : ',' = c := Option.some.inj hc
      rfl
    | cons d rest =>
      rw [hbefore] at hc
      obtain rfl : d = c := Option.some.inj hc
      have hblank := n.before_blank d (hbefore ▸ List.mem_cons_self)
      rw [Bool.eq_false_iff]
      intro hident
      exact Bool.false_ne_true ((isBlank_of_isIdentRest hident).symm.trans hblank)

theorem FurtherName.nextName?_text (n : FurtherName)
    (htail : ∀ c ∈ tail.head?, isIdentRest c = false) :
    nextName? (n.text ++ tail) = some (n.name, tail) := by
  have hcomma : trimStart (n.text ++ tail) = ',' :: (n.after ++ (n.name ++ tail)) := by
    rw [FurtherName.text, List.append_assoc, trimStart_blank_append n.before_blank,
      List.cons_append, List.append_assoc]
    rfl
  have hname : trimStart (n.name ++ tail) = n.name ++ tail := by
    have htight := tight_of_isIdentifier n.ident
    rw [trimStart_append, htight.start, if_neg htight.ne_nil]
  rw [nextName?, hcomma]
  show identifier? (trimStart (n.after ++ (n.name ++ tail))) = _
  rw [trimStart_blank_append n.after_blank, hname, identifier?_append n.ident htail]

/-- A comma passes for a type exactly if a blank stands in front of it. -/
theorem FurtherName.type?_eq_none_iff (n : FurtherName) (hequals : '=' ∉ n.text ++ tail) :
    type? (n.text ++ tail) = none ↔ n.before = [] := by
  cases hbefore : n.before with
  | nil =>
    have hcomma : n.text ++ tail = ',' :: (n.after ++ n.name ++ tail) := by
      rw [FurtherName.text, hbefore]
      rfl
    rw [hcomma]
    exact iff_of_true rfl rfl
  | cons c rest =>
    have hblank := n.before_blank c (hbefore ▸ List.mem_cons_self)
    have hstart : trimStart (n.text ++ tail) ≠ [] := by
      rw [FurtherName.text, List.append_assoc, trimStart_blank_append n.before_blank]
      exact List.cons_ne_nil _ _
    rw [FurtherName.text, hbefore, List.cons_append, List.cons_append] at hstart hequals ⊢
    obtain ⟨ty, hty⟩ := exists_type? hblank hstart hequals
    rw [hty]
    exact iff_of_false (Option.some_ne_none ty) (List.cons_ne_nil _ _)

/-- **Names alone are no spec exactly if no comma has a blank in front of it.**  The induction is on
    the names from the LAST one on, which is the order in which they are given up. -/
theorem FurtherName.namesAndType?_eq_none_iff (hequals : '=' ∉ tail)
    (hstop : ∀ c ∈ tail.head?, isIdentRest c = false) (htail : namesAndType? tail = none)
    (ns : List FurtherName) :
    namesAndType? (ns.flatMap FurtherName.text ++ tail) = none ↔ ∀ n ∈ ns, n.before = [] := by
  induction ns with
  | nil => exact iff_of_true htail (List.forall_mem_nil _)
  | cons n ns ih =>
    have hequals' : '=' ∉ n.text ++ (ns.flatMap FurtherName.text ++ tail) := by
      have hnames : '=' ∉ (n :: ns).flatMap FurtherName.text :=
        equals_not_mem FurtherName.isListed_of_mem
      rw [List.flatMap_cons] at hnames
      intro hmem
      rw [← List.append_assoc] at hmem
      exact (List.mem_append.1 hmem).elim hnames hequals
    have hnext := n.nextName?_text (FurtherName.ends_name hstop ns)
    have hread : namesAndType? (n.text ++ (ns.flatMap FurtherName.text ++ tail)) = none
        ↔ namesAndType? (ns.flatMap FurtherName.text ++ tail) = none
          ∧ type? (n.text ++ (ns.flatMap FurtherName.text ++ tail)) = none := by
      rw [namesAndType?]
      split
      · next hsome =>
        rw [hnext] at hsome
        cases hsome
        split
        · next hlater => simp [hlater]
        · next hlater => simp [hlater]
      · next hnone =>
        rw [hnext] at hnone
        cases hnone
    rw [List.flatMap_cons, List.append_assoc, hread, ih, n.type?_eq_none_iff hequals',
      List.forall_mem_cons]
    exact And.comm

end

/-- What a line of a list may end with besides a name. -/
def IsTail (tail : Text) : Prop := tail = [] ∨ tail = [',']

theorem IsTail.isListed {tail : Text} (h : IsTail tail) : ∀ c ∈ tail, isListed c = true := by
  rcases h with rfl | rfl
  · exact List.forall_mem_nil _
  · exact List.all_iff_forall_prop.1 (by decide)

namespace NameList

variable (l : NameList) {tail : Text} (htail : IsTail tail)
include htail

theorem isListed_of_mem : ∀ c ∈ l.text ++ tail, isListed c = true := by
  intro c hc
  rcases List.mem_append.1 hc with hc | hc
  · rcases List.mem_append.1 hc with hc | hc
    · exact isListed_of_isIdentifier l.ident c hc
    · exact FurtherName.isListed_of_mem c hc
  · exact htail.isListed c hc

theorem tight_text : Tight (l.text ++ tail) := by
  have hfirst := tight_of_isIdentifier l.ident
  rcases htail with rfl | rfl
  · rw [List.append_nil, text]
    rcases List.eq_nil_or_concat l.further with hnil | ⟨ns, n, hn⟩
    · rw [hnil]
      exact (List.append_nil l.first).symm ▸ hfirst
    · -- the last name is at the end
      have hcut : l.first ++ l.further.flatMap FurtherName.text
          = l.first ++ (ns.flatMap FurtherName.text ++ n.before ++ ',' :: n.after) ++ n.name := by
        simp [hn, FurtherName.text]
      rw [hcut]
      exact hfirst.append (tight_of_isIdentifier n.ident) _
  · exact hfirst.append (tight_of_all (List.cons_ne_nil _ _) (by decide)) _

theorem varSpec?_eq_none_iff :
    varSpec? (l.text ++ tail) = none ↔ ∀ n ∈ l.further, n.before = [] := by
  have hstop : ∀ c ∈ tail.head?, isIdentRest c = false := by
    rcases htail with rfl | rfl
    · intro c hc
      cases hc
    · intro c hc
      obtain rfl : ',' = c := Option.some.inj hc
      rfl
  have hnone : namesAndType? tail = none := by
    rcases htail with rfl | rfl <;> decide +kernel
  have hname : identifier? (l.text ++ tail)
      = some (l.first, l.further.flatMap FurtherName.text ++ tail) := by
    rw [text, List.append_assoc]
    exact identifier?_append l.ident (FurtherName.ends_name hstop l.further)
  rw [varSpec?, (l.tight_text htail).trim, hname,
    ← FurtherName.namesAndType?_eq_none_iff (equals_not_mem htail.isListed) hstop hnone]
  show (namesAndType? _).bind _ = none ↔ _
  cases namesAndType? (l.further.flatMap FurtherName.text ++ tail) <;> simp

/-- On one line, a list is one piece of a statement. -/
theorem uncut_text (hnewline : '\n' ∉ l.text ++ tail) : Uncut (l.text ++ tail) := by
  have hplain := plain_of_isListed (l.isListed_of_mem htail) hnewline
  exact ⟨settled_of_plain hplain, balanced_of_plain hplain, l.tight_text htail⟩

end NameList

/-! ## Lists over several lines -/

/-- **The first line of an unspaced list is a list**, perhaps with a comma behind it; then there is
    a line feed, or the list is at its end. -/
theorem exists_first_line {ns : List FurtherName} (h : Unspaced ns) :
    ∃ (ms : List FurtherName) (tail rest : Text), (∀ m ∈ ms, m.before = []) ∧ IsTail tail
      ∧ '\n' ∉ ms.flatMap FurtherName.text
      ∧ ns.flatMap FurtherName.text = ms.flatMap FurtherName.text ++ tail ++ rest
      ∧ (rest = [] ∨ ∃ (b : Spacing) (t : Text), rest = b.text ++ (['\n'] ++ t)) := by
  -- blanks with a line feed in them are cut at the first one
  have hcut : ∀ {u : Text}, (∀ c ∈ u, isBlank c = true) → '\n' ∈ u →
      ∃ (b : Spacing) (t : Text), u = b.text ++ (['\n'] ++ t) := by
    intro u hblank hmem
    obtain ⟨a, t, rfl, ha⟩ := List.eq_append_cons_of_mem hmem
    exact ⟨⟨a, fun c hc => hblank c (List.mem_append_left _ hc), ha⟩, t, rfl⟩
  induction ns with
  | nil => exact ⟨[], [], [], List.forall_mem_nil _, .inl rfl, List.not_mem_nil, rfl, .inl rfl⟩
  | cons n ns ih =>
    rw [Unspaced] at h
    rw [List.flatMap_cons, FurtherName.text]
    rcases h with hbefore | ⟨hnone, hlater⟩
    · obtain ⟨b, t, ht⟩ := hcut n.before_blank hbefore
      refine ⟨[], [], n.before ++ ',' :: (n.after ++ n.name) ++ ns.flatMap FurtherName.text,
        List.forall_mem_nil _, .inl rfl, List.not_mem_nil, rfl, .inr ⟨b, ?_⟩⟩
      refine ⟨t ++ ',' :: (n.after ++ n.name) ++ ns.flatMap FurtherName.text, ?_⟩
      rw [ht]
      simp only [List.append_assoc]
    · by_cases hafter : '\n' ∈ n.after
      · obtain ⟨b, t, ht⟩ := hcut n.after_blank hafter
        refine ⟨[], [','], n.after ++ n.name ++ ns.flatMap FurtherName.text, List.forall_mem_nil _,
          .inr rfl, List.not_mem_nil, ?_, .inr ⟨b, t ++ n.name ++ ns.flatMap FurtherName.text, ?_⟩⟩
        · rw [hnone]
          rfl
        · rw [ht]
          simp only [List.append_assoc]
      · obtain ⟨ms, tail, rest, hms, htail, hline, htext, hrest⟩ := ih (hlater.resolve_left hafter)
        refine ⟨n :: ms, tail, rest, List.forall_mem_cons.2 ⟨hnone, hms⟩, htail, ?_, ?_, hrest⟩
        · have hfirst : '\n' ∉ n.text := n.newline_not_mem_text.2 ⟨hnone ▸ List.not_mem_nil, hafter⟩
          rw [List.flatMap_cons]
          exact fun hmem => (List.mem_append.1 hmem).elim hfirst hline
        · rw [List.flatMap_cons, FurtherName.text, htext]
          simp only [List.append_assoc]

/-! ## Where a list stands -/

/-- A place for one variable spec: behind the keyword, or alone in a group. -/
inductive VarPlace where
  | statement (between : Spacing) (apart : between.text ≠ [])
  | group (between : Spacing) (lead trail : Gap)

namespace VarPlace

def ahead : VarPlace → Text
  | .statement between _ => Group.vars.keyword ++ between.text
  | .group between lead _ => Group.vars.keyword ++ between.text ++ ['('] ++ lead.text

def behind : VarPlace → Text
  | .statement _ _ => []
  | .group _ _ trail => trail.text ++ [')']

/-- A text in its place. -/
def text (place : VarPlace) (u : Text) : Text := place.ahead ++ u ++ place.behind

/-- The state in which the spec is read. -/
def state : VarPlace → Reading
  | .statement _ _ => {}
  | .group _ _ _ => ⟨[], some .vars⟩

/-- What may stand behind the spec. -/
def Ends : VarPlace → Text → Prop
  | .statement _ _, t => trim (firstStatement t) = []
  | .group _ _ _, t => EndsSpec (firstStatement t)

variable (place : VarPlace)

theorem ends_of_blank {t : Text} (h : trim (firstStatement t) = []) : place.Ends t := by
  cases place with
  | statement between apart => exact h
  | group between lead trail => exact .blank h

theorem ends_behind : place.Ends place.behind := by
  cases place with
  | statement between apart => exact (rfl : trim (firstStatement []) = [])
  | group between lead trail => exact trail.endsSpec []

/-- Behind the spec, nothing more is declared. -/
theorem through_behind (ds : List Declaration) :
    (place.state.add ds).through place.behind = some ⟨ds, none⟩ := by
  cases place with
  | statement between apart => rfl
  | group between lead trail =>
    show (Reading.add ⟨[], some .vars⟩ ds).through (trail.text ++ ([')'] ++ [])) = _
    rw [trail.through, Reading.through_close rfl]
    rfl

/-- **One piece in its place is read alone.** -/
theorem through_eq {u t : Text} (hu : Uncut u) (hparen : u.head? ≠ some '(')
    (hmeet : meetsSlash u t = false) (ht : place.Ends t) :
    ({} : Reading).through (place.ahead ++ (u ++ t))
      = (varSpec? u).bind fun ds => (place.state.add ds).through t := by
  cases place with
  | statement between apart =>
    have hpiece := hu.prepend Group.vars.keyword_plain Group.vars.keyword_tight between
    have hmeet' : meetsSlash (Group.vars.keyword ++ between.text ++ u) t = false := by
      rw [meetsSlash, List.getLast?_append_of_ne_nil _ hu.tight.ne_nil]
      exact hmeet
    have hrun := Reading.run_behind (r := {}) (g := .vars) rfl between hu hparen (.inl apart) ht
    show ({} : Reading).through (Group.vars.keyword ++ between.text ++ (u ++ t)) = _
    rw [← List.append_assoc, Reading.through_bind (f := (varSpec? u).map (Reading.add {}))
      hpiece.settled hmeet' ?_, Option.bind_map]
    · rfl
    · rw [hrun, Option.bind_map]
      rfl
  | group between lead trail =>
    have hopened : (⟨[], some .vars⟩ : Reading).group = some .vars := rfl
    have hrun := Reading.run_piece hopened hu ht
    show ({} : Reading).through
      (Group.vars.keyword ++ between.text ++ ['('] ++ lead.text ++ (u ++ t)) = _
    rw [List.append_assoc _ lead.text, Reading.through_open rfl, lead.through,
      Reading.through_bind (f := (varSpec? u).map (Reading.add ⟨[], some .vars⟩)) hu.settled
        hmeet ?_, Option.bind_map]
    · rfl
    · rw [hrun, Option.bind_map]
      rfl

end VarPlace

/-! ## Lists that are refused -/

/-- A text that is refused. -/
def Rejected (t : Text) : Prop := ∃ e, parseDeclarations t = .error e

theorem rejected_of_through {t : Text} (h : ({} : Reading).through t = none) : Rejected t := by
  cases hparse : parseDeclarations t with
  | error e => exact ⟨e, hparse⟩
  | ok ds =>
    rw [parseDeclarations_ok_iff_through, h] at hparse
    cases hparse

namespace NameList

variable (l : NameList)

theorem head?_text_ne_paren (t : Text) : (l.text ++ t).head? ≠ some '(' := by
  rw [text, List.append_assoc]
  exact head?_ne_paren (plain_of_isIdentifier l.ident) (tight_of_isIdentifier l.ident).ne_nil _

/-- A list makes no comment with what stands behind it. -/
theorem meetsSlash_text {tail : Text} (htail : IsTail tail) (hnewline : '\n' ∉ l.text ++ tail)
    (t : Text) : meetsSlash (l.text ++ tail) t = false :=
  meetsSlash_of_plain (plain_of_isListed (l.isListed_of_mem htail) hnewline) t

/-- **An unspaced list is refused**: already its first line is. -/
theorem rejected_of_unspaced (h : Unspaced l.further) (place : VarPlace) :
    Rejected (place.text l.text) := by
  obtain ⟨ms, tail, rest, hms, htail, hline, htext, hrest⟩ := exists_first_line h
  let front : NameList := ⟨l.first, l.ident, ms⟩
  have hcut : place.text l.text
      = place.ahead ++ ((front.text ++ tail) ++ (rest ++ place.behind)) := by
    rw [VarPlace.text, text, htext]
    simp only [front, text, List.append_assoc]
  have hfirst : '\n' ∉ l.first := fun hmem =>
    absurd (isIdentRest_of_isIdentifier l.ident _ hmem) (by decide)
  have hnewline : '\n' ∉ front.text ++ tail := by
    have htail' : '\n' ∉ tail := by
      rcases htail with rfl | rfl <;> decide
    simp only [front, text, List.mem_append, not_or]
    exact ⟨⟨hfirst, hline⟩, htail'⟩
  -- a line feed ends the statement, and so does the end of the place
  have hends : place.Ends (rest ++ place.behind) := by
    rcases hrest with rfl | ⟨b, t, rfl⟩
    · exact place.ends_behind
    · refine place.ends_of_blank ?_
      rw [← List.append_assoc b.text, List.append_assoc (b.text ++ _)]
      exact (b.separates separates_newline).ends _
  have hnone : varSpec? (front.text ++ tail) = none := (front.varSpec?_eq_none_iff htail).2 hms
  refine rejected_of_through ?_
  rw [hcut, place.through_eq (front.uncut_text htail hnewline) (front.head?_text_ne_paren _)
    (front.meetsSlash_text htail hnewline _) hends, hnone]
  rfl

/-- On one line, no other list is refused. -/
theorem unspaced_of_rejected (hnewline : '\n' ∉ l.text) {place : VarPlace}
    (h : Rejected (place.text l.text)) : Unspaced l.further := by
  have htail : IsTail [] := .inl rfl
  have hline : '\n' ∉ l.further.flatMap FurtherName.text := fun hmem =>
    hnewline (List.mem_append_right _ hmem)
  rw [← List.append_nil l.text] at hnewline
  by_contra hspaced
  have hsome : varSpec? (l.text ++ []) ≠ none := fun hnone =>
    hspaced ((unspaced_iff hline).2 ((l.varSpec?_eq_none_iff htail).1 hnone))
  obtain ⟨ds, hds⟩ := Option.ne_none_iff_exists'.1 hsome
  have hthrough : ({} : Reading).through (place.text l.text) = some ⟨ds, none⟩ := by
    rw [VarPlace.text, List.append_assoc, ← List.append_nil l.text,
      place.through_eq (l.uncut_text htail hnewline) (l.head?_text_ne_paren _)
        (l.meetsSlash_text htail hnewline _) place.ends_behind, hds]
    exact place.through_behind ds
  obtain ⟨e, he⟩ := h
  rw [(parseDeclarations_ok_iff_through _ ds).2 hthrough] at he
  cases he

end NameList

end GoTemplate
