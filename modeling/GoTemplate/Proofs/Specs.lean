/-
  How one declaration is written and read.

  A SPEC is a declaration as it stands in a group of its kind: an optional name and a path, or a
  name and a type, with blanks between them.  Its text is one piece of a statement (`Uncut`):
  nothing is cut in it, its brackets are balanced, and there is ink at both ends.  Read alone it
  yields the declaration and nothing else (`Spec.reads`).

  What a type may hold is said by the scan that cuts statements (`settles`) and by the one that
  finds the end of a group (`balanced`), so a semicolon or a parenthesis in a literal is no
  obstacle.
-/
import GoTemplate.Proofs.Statements
import Mathlib.Data.List.TakeDrop
import Mathlib.Tactic.MkIffOfInductiveProp

namespace GoTemplate

/-! ## Declarations that can be written -/

/-- A path between double quotes that need no escape, with a dot, a name or nothing in front. -/
structure Import.Writable (i : Import) : Prop where
  name : ∀ n ∈ i.localName?, n = ['.'] ∨ isIdentifier n = true
  path : ∃ path, i.path = '"' :: (path ++ ['"']) ∧ path ≠ []
    ∧ ∀ c ∈ path, c ≠ '"' ∧ isBlank c = false ∧ c ≠ '\\'

/-- A name and a type that can be told from what stands around it: every literal in it is closed,
    and outside literals it has no statement end, no comment, and balanced brackets. -/
@[mk_iff]
structure Param.Writable (p : Param) : Prop where
  name : isIdentifier p.name = true
  ne_nil : p.type ≠ []
  trimmed : trim p.type = p.type
  equals : '=' ∉ p.type
  newline : '\n' ∉ p.type
  comma : p.type.head? ≠ some ','
  scan : settles .code p.type = true
  brackets : balanced .code 0 p.type = true

instance (p : Param) : Decidable p.Writable := decidable_of_iff' _ p.writable_iff

/-- A declaration that has a written form. -/
def Declaration.Writable : Declaration → Prop
  | .importing i => i.Writable
  | .param p => p.Writable

/-! ## Specs -/

/-- A declaration as it stands in a group of its kind. -/
inductive Spec : Group → Type where
  | importing (i : Import) (between : Spacing) : Spec .imports
  | param (p : Param) (between : Spacing) (apart : between.text ≠ []) : Spec .vars

namespace Spec

variable {g : Group}

def text : Spec g → Text
  | .importing ⟨none, path⟩ _ => path
  | .importing ⟨some name, path⟩ between => name ++ between.text ++ path
  | .param p between _ => p.name ++ between.text ++ p.type

def declaration : Spec g → Declaration
  | .importing i _ => .importing i
  | .param p _ _ => .param p

end Spec

/-! ## Identifiers -/

theorem isBlank_of_isIdentRest {c : Char} (h : isIdentRest c = true) : isBlank c = false := by
  have hbetween : ∀ lo hi : Char, lo.val ≤ c.val ∧ c.val ≤ hi.val → 48 ≤ lo.toNat → hi.toNat ≤ 122 →
      48 ≤ c.toNat ∧ c.toNat ≤ 122 := fun lo hi hc hlo hhi =>
    ⟨hlo.trans (UInt32.le_iff_toNat_le.1 hc.1), (UInt32.le_iff_toNat_le.1 hc.2).trans hhi⟩
  have hrange : 48 ≤ c.toNat ∧ c.toNat ≤ 122 := by
    have hclass : (c.isUpper || c.isLower || c.isDigit || c == '_') = true := h
    simp only [Bool.or_eq_true, beq_iff_eq] at hclass
    rcases hclass with ((hupper | hlower) | hdigit) | rfl
    · exact hbetween 'A' 'Z' (of_decide_eq_true hupper) (by decide) (by decide)
    · obtain ⟨hlo, hhi⟩ := Bool.and_eq_true_iff.1 hlower
      exact hbetween 'a' 'z' ⟨of_decide_eq_true hlo, of_decide_eq_true hhi⟩ (by decide) (by decide)
    · obtain ⟨hlo, hhi⟩ := Bool.and_eq_true_iff.1 hdigit
      exact hbetween '0' '9' ⟨of_decide_eq_true hlo, of_decide_eq_true hhi⟩ (by decide) (by decide)
    · decide
  rw [Bool.eq_false_iff]
  intro hblank
  simp only [isBlank, Bool.or_eq_true, Bool.and_eq_true, decide_eq_true_eq, beq_iff_eq] at hblank
  omega

section

variable {n : Text} (h : isIdentifier n = true)
include h

theorem isIdentRest_of_isIdentifier : ∀ c ∈ n, isIdentRest c = true := by
  cases n with
  | nil => nomatch h
  | cons c n =>
    obtain ⟨hc, hn⟩ := Bool.and_eq_true_iff.1 h
    have hrest : isIdentRest c = true := by
      have hc' : (c.isAlpha || c == '_') = true := hc
      show (c.isAlpha || c.isDigit || c == '_') = true
      rw [Bool.or_eq_true] at hc' ⊢
      exact hc'.imp_left fun halpha => Bool.or_eq_true_iff.2 (.inl halpha)
    exact List.forall_mem_cons.2 ⟨hrest, List.all_eq_true.1 hn⟩

theorem plain_of_isIdentifier : ∀ c ∈ n, c ∉ marks := by
  intro c hc hmark
  have hmarks : ∀ m ∈ marks, isIdentRest m = false := List.all_iff_forall_prop.1 (by decide)
  exact Bool.false_ne_true ((hmarks c hmark).symm.trans (isIdentRest_of_isIdentifier h c hc))

theorem tight_of_isIdentifier : Tight n :=
  tight_of_ink (by rintro rfl; nomatch h) fun c hc =>
    isBlank_of_isIdentRest (isIdentRest_of_isIdentifier h c hc)

/-- An identifier is read up to a character that cannot go on with it. -/
theorem identifier?_append {t : Text} (ht : ∀ c ∈ t.head?, isIdentRest c = false) :
    identifier? (n ++ t) = some (n, t) := by
  cases n with
  | nil => nomatch h
  | cons c n =>
    obtain ⟨hc, hn⟩ := Bool.and_eq_true_iff.1 h
    have hstop : t.takeWhile isIdentRest = [] ∧ t.dropWhile isIdentRest = t := by
      cases t with
      | nil => exact ⟨rfl, rfl⟩
      | cons d t => simp [ht d rfl]
    rw [List.cons_append, identifier?, if_pos hc,
      List.takeWhile_append_of_pos (List.all_eq_true.1 hn),
      List.dropWhile_append_of_pos (List.all_eq_true.1 hn), hstop.1, hstop.2, List.append_nil]

end

/-- Blanks end an identifier, and so does what stands there in their place. -/
theorem Spacing.ends_identifier (b : Spacing) {t : Text}
    (ht : b.text = [] → ∀ c ∈ t.head?, isIdentRest c = false) :
    ∀ c ∈ (b.text ++ t).head?, isIdentRest c = false := by
  intro c hc
  cases hb : b.text with
  | nil =>
    rw [hb] at hc
    exact ht hb c hc
  | cons d rest =>
    rw [hb] at hc
    obtain rfl : d = c := Option.some.inj hc
    have hblank := b.blank d (by rw [hb]; exact List.mem_cons_self)
    rw [Bool.eq_false_iff]
    intro hident
    exact Bool.false_ne_true ((isBlank_of_isIdentRest hident).symm.trans hblank)

/-! ## How a spec reads -/

/-- One piece of a statement: text with ink at both ends, in which nothing is cut. -/
structure Uncut (u : Text) : Prop where
  settled : Settled u
  brackets : balanced .code 0 u = true
  tight : Tight u

theorem Spacing.plain_append (b : Spacing) {word : Text} (hword : ∀ c ∈ word, c ∉ marks) :
    ∀ c ∈ word ++ b.text, c ∉ marks := by
  intro c hc
  rcases List.mem_append.1 hc with hc | hc
  · exact hword c hc
  · exact b.plain c hc

/-- A word and blanks in front. -/
theorem Uncut.prepend {word u : Text} (hword : ∀ c ∈ word, c ∉ marks) (htight : Tight word)
    (b : Spacing) (hu : Uncut u) : Uncut (word ++ b.text ++ u) := by
  have hfront := b.plain_append hword
  have hsettled := settled_of_plain hfront
  exact ⟨hsettled.append hu.settled (meetsSlash_of_plain hfront u),
    balanced_append hsettled.scan (balanced_of_plain hfront) hu.brackets,
    htight.append hu.tight b.text⟩

theorem head?_ne_paren {word : Text} (hplain : ∀ c ∈ word, c ∉ marks) (hne : word ≠ []) (t : Text) :
    (word ++ t).head? ≠ some '(' := by
  obtain ⟨c, word, rfl⟩ := List.exists_cons_of_ne_nil hne
  intro h
  have hc : c = '(' := Option.some.inj h
  exact hplain c List.mem_cons_self (hc ▸ by decide)

/-- What a group has to know of a text in it: the text is one piece, and it reads as `d`. -/
structure Reads (g : Group) (u : Text) (d : Declaration) : Prop extends Uncut u where
  paren : u.head? ≠ some '('
  spec : g.spec? u = some [d]

/-- A path between quotes is one piece, and it is read whole. -/
theorem Import.Writable.path_reads {i : Import} (h : i.Writable) :
    Uncut i.path ∧ ∃ path, i.path = '"' :: (path ++ ['"']) ∧ importPath? i.path = some path := by
  obtain ⟨path, hpath, hne, hchars⟩ := h.path
  rw [hpath]
  have hbody : staysInside false path = true :=
    staysInside_of_plain fun c hc => ⟨(hchars c hc).1, (hchars c hc).2.2⟩
  have hink : ∀ c ∈ '"' :: (path ++ ['"']), isBlank c = false := by
    intro c hc
    simp only [List.mem_cons, List.mem_append, List.not_mem_nil, or_false] at hc
    rcases hc with rfl | hc | rfl
    · decide
    · exact (hchars c hc).2.1
    · decide
  have hnewline : '\n' ∉ '"' :: (path ++ ['"']) := fun h => absurd (hink '\n' h) (by decide)
  refine ⟨⟨⟨hnewline, settles_inside hbody []⟩, balanced_inside hbody 0 [],
    tight_of_ink (List.cons_ne_nil _ _) hink⟩, path, rfl, ?_⟩
  have hpos : ∀ c ∈ path, (!(c == '"' || isBlank c || c == '\\')) = true := by
    intro c hc
    simp [hchars c hc]
  obtain ⟨c, rest, rfl⟩ := List.exists_cons_of_ne_nil hne
  show closedPath? '"' (· == '\\') (c :: rest ++ ['"']) = some (c :: rest)
  rw [closedPath?, List.span_eq_takeWhile_dropWhile, List.takeWhile_append_of_pos hpos,
    List.dropWhile_append_of_pos hpos]
  simp

/-- A local name is read up to a character that cannot go on with it. -/
theorem localName?_append {n t : Text} (h : n = ['.'] ∨ isIdentifier n = true)
    (ht : ∀ c ∈ t.head?, isIdentRest c = false) : localName? (n ++ t) = some (n, t) := by
  rcases h with rfl | h
  · rfl
  · have hread := identifier?_append h ht
    unfold localName?
    split
    · next rest hdot =>
      -- no identifier begins with a dot
      rw [hdot] at hread
      nomatch hread
    · exact hread

/-- An import spec reads as its import. -/
theorem Import.Writable.reads {i : Import} (h : i.Writable) (between : Spacing) :
    Reads .imports (Spec.importing i between).text (.importing i) := by
  obtain ⟨hpiece, path, hpath, hread⟩ := h.path_reads
  obtain ⟨name?, quoted⟩ := i
  obtain rfl : quoted = '"' :: (path ++ ['"']) := hpath
  cases name? with
  | none =>
    refine { hpiece with paren := nofun, spec := ?_ }
    have hspec : importSpec? ('"' :: (path ++ ['"']))
        = some (.importing ⟨none, '"' :: (path ++ ['"'])⟩) := by
      have hname : GoTemplate.localName? ('"' :: (path ++ ['"'])) = none := rfl
      simp only [importSpec?, hpiece.tight.trim, hname, hread, Option.map_some]
    exact congrArg (Option.map ([·])) hspec
  | some name =>
    have hname : name = ['.'] ∨ isIdentifier name = true := h.name name rfl
    have hplain : ∀ c ∈ name, c ∉ marks := by
      rcases hname with rfl | hname
      · exact List.all_iff_forall_prop.1 (by decide)
      · exact plain_of_isIdentifier hname
    have htight : Tight name := by
      rcases hname with rfl | hname
      · exact tight_of_all (by decide) (by decide)
      · exact tight_of_isIdentifier hname
    have hwhole := hpiece.prepend hplain htight between
    refine { hwhole with paren := ?_, spec := ?_ }
    · rw [Spec.text, List.append_assoc]
      exact head?_ne_paren hplain htight.ne_nil _
    · have hspec : importSpec? (name ++ between.text ++ '"' :: (path ++ ['"']))
          = some (.importing ⟨some name, '"' :: (path ++ ['"'])⟩) := by
        have hquote : ∀ c ∈ ('"' :: (path ++ ['"'])).head?, isIdentRest c = false := by
          intro c hc
          obtain rfl : '"' = c := Option.some.inj hc
          decide
        have hlocal := localName?_append hname (between.ends_identifier fun _ => hquote)
        rw [← List.append_assoc] at hlocal
        have hrest : trimStart (between.text ++ '"' :: (path ++ ['"']))
            = '"' :: (path ++ ['"']) := by
          rw [trimStart_blank_append between.blank, hpiece.tight.start]
        simp only [importSpec?, hwhole.tight.trim, hlocal, hrest, hread, Option.map_some]
      exact congrArg (Option.map ([·])) hspec

/-- Behind the name, blanks and a type that begins with no comma are only a type. -/
theorem Param.Writable.namesAndType? {p : Param} (h : p.Writable) (between : Spacing)
    (apart : between.text ≠ []) : namesAndType? (between.text ++ p.type) = some ([], p.type) := by
  have htight := tight_of_trim h.ne_nil h.trimmed
  have hstart : trimStart (between.text ++ p.type) = p.type := by
    rw [trimStart_blank_append between.blank, htight.start]
  have hnext : nextName? (between.text ++ p.type) = none := by
    rw [nextName?, hstart]
    split
    · next hcomma => exact absurd (congrArg List.head? hcomma) h.comma
    · rfl
  have htype : type? (between.text ++ p.type) = some p.type := by
    obtain ⟨c, rest, hb⟩ := List.exists_cons_of_ne_nil apart
    have hblank : isBlank c = true := between.blank c (by rw [hb]; exact List.mem_cons_self)
    rw [hb, List.cons_append] at hstart ⊢
    simp [type?, hstart, hblank, h.ne_nil, h.equals, h.trimmed]
  rw [GoTemplate.namesAndType?]
  split
  · next hsome => rw [hnext] at hsome; cases hsome
  · rw [htype, Option.map_some]

/-- A variable spec reads as its parameter. -/
theorem Param.Writable.reads {p : Param} (h : p.Writable) (between : Spacing)
    (apart : between.text ≠ []) : Reads .vars (Spec.param p between apart).text (.param p) := by
  have hplain := plain_of_isIdentifier h.name
  have hname := tight_of_isIdentifier h.name
  have htype : Uncut p.type := ⟨⟨h.newline, h.scan⟩, h.brackets, tight_of_trim h.ne_nil h.trimmed⟩
  have hwhole := htype.prepend hplain hname between
  refine { hwhole with paren := ?_, spec := ?_ }
  · rw [Spec.text, List.append_assoc]
    exact head?_ne_paren hplain hname.ne_nil _
  · show varSpec? (p.name ++ between.text ++ p.type) = some [.param p]
    have hident : identifier? (p.name ++ between.text ++ p.type)
        = some (p.name, between.text ++ p.type) := by
      rw [List.append_assoc]
      exact identifier?_append h.name (between.ends_identifier fun hnil => absurd hnil apart)
    rw [varSpec?, hwhole.tight.trim, hident]
    simp [h.namesAndType? between apart]

theorem Spec.reads {g : Group} (s : Spec g) (h : s.declaration.Writable) :
    Reads g s.text s.declaration := by
  cases s with
  | importing i between => exact Import.Writable.reads h between
  | param p between apart => exact Param.Writable.reads h between apart

end GoTemplate
