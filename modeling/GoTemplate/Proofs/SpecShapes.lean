/-
  What a spec that can be read looks like.

  The readers of specs are inverted here, once for all: whatever `importSpec?` accepts holds one
  path between quotes (`importSpec?_eq`), and whatever `varSpec?` accepts is a list of names and a
  type (`varSpec?_eq`).  `PathLiteral` and `ParamList` carry what is known of the two.  The literals
  of the spec are told along with it: the path with its quotes is the only one of an import, and
  those of a variable stand in its type.
-/
import GoTemplate.Proofs.SourceLiterals
import Mathlib.Data.List.DropRight

namespace GoTemplate

open Go (ScanState Unquoted literals closedLiterals isQuote)

/-! ## Names -/

theorem identifier?_eq {t name rest : Text} (h : identifier? t = some (name, rest)) :
    t = name ++ rest ∧ isIdentifier name = true := by
  cases t with
  | nil => cases h
  | cons c t =>
    rw [identifier?] at h
    split at h
    · next hc =>
      cases h
      have hrest : (t.takeWhile isIdentRest).all isIdentRest = true :=
        List.all_eq_true.2 fun x hx => List.mem_takeWhile_imp hx
      refine ⟨?_, Bool.and_eq_true_iff.2 ⟨hc, hrest⟩⟩
      rw [List.cons_append, List.takeWhile_append_dropWhile]
    · cases h

theorem unquoted_of_isIdentifier {name : Text} (h : isIdentifier name = true) : Unquoted name :=
  Go.unquoted_of_plain (plain_of_isIdentifier h)

theorem localName?_eq {t name rest : Text} (h : localName? t = some (name, rest)) :
    t = name ++ rest ∧ Unquoted name := by
  unfold localName? at h
  split at h
  · cases h
    exact ⟨rfl, List.all_iff_forall_prop.1 (by decide)⟩
  · obtain ⟨ht, hname⟩ := identifier?_eq h
    exact ⟨ht, unquoted_of_isIdentifier hname⟩

theorem trimStart_eq_cons {t r : Text} {c : Char} (h : trimStart t = c :: r) :
    t = t.takeWhile isBlank ++ c :: r := by
  rw [← h]
  exact List.takeWhile_append_dropWhile.symm

/-- A further name stands behind a comma, and no quote does. -/
theorem nextName?_eq {t name rest : Text} (h : nextName? t = some (name, rest)) :
    isIdentifier name = true ∧ (trimStart t).head? = some ','
      ∧ ∃ front, t = front ++ rest ∧ Unquoted front := by
  rw [nextName?] at h
  split at h
  · next r hr =>
    obtain ⟨hr', hname⟩ := identifier?_eq h
    have hcut : r = r.takeWhile isBlank ++ (name ++ rest) := by
      rw [← hr']
      exact List.takeWhile_append_dropWhile.symm
    have hblank : ∀ u : Text, Unquoted (u.takeWhile isBlank) := fun u =>
      Go.unquoted_of_blank fun c hc => List.mem_takeWhile_imp hc
    have hcomma : Unquoted [','] := List.all_iff_forall_prop.1 (by decide)
    refine ⟨hname, by rw [hr]; rfl,
      t.takeWhile isBlank ++ [','] ++ r.takeWhile isBlank ++ name, ?_,
      (((hblank t).append hcomma).append (hblank r)).append (unquoted_of_isIdentifier hname)⟩
    calc t = t.takeWhile isBlank ++ ',' :: r := trimStart_eq_cons hr
      _ = t.takeWhile isBlank ++ ',' :: (r.takeWhile isBlank ++ (name ++ rest)) := by rw [← hcut]
      _ = _ := by simp only [List.append_assoc, List.cons_append, List.nil_append]
  · cases h

/-! ## Imports -/

/-- A path between quotes as an import spec has it. -/
structure PathLiteral where
  quote : Char
  path : Text
  quote_eq : quote = '"' ∨ quote = '\x60'
  ne_nil : path ≠ []
  ink : ∀ c ∈ path, isBlank c = false
  closed : quote ∉ path
  slash : quote = '"' → '\\' ∉ path

namespace PathLiteral

/-- The literal as it is written. -/
def text (p : PathLiteral) : Text := p.quote :: (p.path ++ [p.quote])

/-- The path between double quotes. -/
def requoted (p : PathLiteral) : Text := '"' :: (p.path ++ ['"'])

/-- Inside the literal the scan goes on to the closing quote, and no further. -/
theorem closedLiterals_path {q : Char} {path : Text} (hq : q = '"' ∨ q = '\x60') (hopen : q ∉ path)
    (hslash : q = '"' → '\\' ∉ path) (read : Text) :
    closedLiterals (.literal q false) read (path ++ [q]) = [read ++ path ++ [q]] := by
  induction path generalizing read with
  | nil =>
    have hnext : (ScanState.literal q false).next q = .code := by
      rcases hq with rfl | rfl <;> rfl
    rw [List.nil_append, closedLiterals, if_pos hnext, if_neg ScanState.noConfusion,
      List.append_nil]
    rfl
  | cons c path ih =>
    have hc : c ≠ q := fun hc => hopen (hc ▸ List.mem_cons_self)
    have hescape : ¬(c = '\\' ∧ q ≠ '\x60') := by
      rintro ⟨rfl, hraw⟩
      exact hslash (hq.resolve_right hraw) List.mem_cons_self
    have hnext : (ScanState.literal q false).next c = .literal q false := by
      rw [ScanState.next, if_neg hescape, if_neg hc]
    have hlater := ih (List.not_mem_of_not_mem_cons hopen)
      (fun hdouble => List.not_mem_of_not_mem_cons (hslash hdouble)) (read ++ [c])
    rw [List.cons_append, closedLiterals, hnext, if_neg ScanState.noConfusion,
      if_neg ScanState.noConfusion, hlater]
    simp

theorem literals_text (p : PathLiteral) : literals p.text = [p.text] := by
  have hquote : isQuote p.quote = true := by
    rcases p.quote_eq with h | h <;> rw [h] <;> rfl
  have hnext : ScanState.code.next p.quote = .literal p.quote false := by
    rw [ScanState.next, if_pos hquote]
  rw [literals, text, closedLiterals, hnext, if_neg ScanState.noConfusion, if_pos rfl,
    closedLiterals_path p.quote_eq p.closed p.slash]
  rfl

end PathLiteral

theorem closedPath?_eq {quote : Char} {forbidden : Char → Bool} {t path : Text}
    (h : closedPath? quote forbidden t = some path) :
    t = path ++ [quote] ∧ path ≠ []
      ∧ ∀ c ∈ path, c ≠ quote ∧ isBlank c = false ∧ forbidden c = false := by
  rw [closedPath?, List.span_eq_takeWhile_dropWhile] at h
  split at h
  · next c rest q hspan =>
    split at h
    · next hq =>
      cases h
      subst hq
      obtain ⟨htake, hdrop⟩ := Prod.mk.inj hspan
      refine ⟨?_, List.cons_ne_nil _ _, ?_⟩
      · rw [← htake, ← hdrop, List.takeWhile_append_dropWhile]
      · intro x hx
        rw [← htake] at hx
        have hallowed := List.mem_takeWhile_imp hx
        simp only [Bool.not_eq_true', Bool.or_eq_false_iff, beq_eq_false_iff_ne] at hallowed
        exact ⟨hallowed.1.1, hallowed.1.2, hallowed.2⟩
    · cases h
  · cases h

/-- A path that is read is the whole text, between quotes. -/
theorem importPath?_eq {t path : Text} (h : importPath? t = some path) :
    ∃ p : PathLiteral, p.path = path ∧ p.text = t := by
  cases t with
  | nil => cases h
  | cons c t =>
    rw [importPath?] at h
    split at h
    · next hc =>
      obtain ⟨ht, hne, hchars⟩ := closedPath?_eq h
      refine ⟨⟨'"', path, .inl rfl, hne, fun x hx => (hchars x hx).2.1,
        fun hmem => (hchars '"' hmem).1 rfl, fun _ hmem => ?_⟩, rfl, ?_⟩
      · exact absurd (hchars '\\' hmem).2.2 (by decide)
      · rw [PathLiteral.text, hc, ht]
    · split at h
      · next hc =>
        obtain ⟨ht, hne, hchars⟩ := closedPath?_eq h
        refine ⟨⟨'\x60', path, .inr rfl, hne, fun x hx => (hchars x hx).2.1,
          fun hmem => (hchars '\x60' hmem).1 rfl, fun hdouble => absurd hdouble (by decide)⟩,
          rfl, ?_⟩
        rw [PathLiteral.text, hc, ht]
      · cases h

/-- **What is accepted as an import holds one literal, its path.** -/
theorem importSpec?_eq {u : Text} {d : Declaration} (h : importSpec? u = some d) :
    ∃ (name? : Option Text) (p : PathLiteral),
      d = .importing ⟨name?, p.requoted⟩ ∧ literals u = [p.text] := by
  rw [importSpec?] at h
  obtain ⟨path, hpath, rfl⟩ := Option.map_eq_some_iff.1 h
  obtain ⟨p, rfl, hp⟩ := importPath?_eq hpath
  refine ⟨_, p, rfl, ?_⟩
  rw [← p.literals_text, hp, ← Go.literals_trim u]
  split
  · next name rest hname =>
    obtain ⟨ht, hunquoted⟩ := localName?_eq hname
    rw [ht, Go.literals_unquoted_append hunquoted, Go.literals_trimStart]
  · rfl

/-! ## Variables -/

/-- Names and their type, as a variable spec lists them. -/
structure ParamList where
  names : List Text
  type : Text
  idents : ∀ n ∈ names, isIdentifier n = true
  ne_nil : type ≠ []
  trimmed : trim type = type
  equals : '=' ∉ type

/-- One parameter for each name. -/
def ParamList.declarations (p : ParamList) : List Declaration :=
  p.names.map fun n => .param ⟨n, p.type⟩

theorem trimStart_trimStart (t : Text) : trimStart (trimStart t) = trimStart t :=
  List.dropWhile_idempotent _ _

theorem trim_trimStart (t : Text) : trim (trimStart t) = trim t := by
  rw [trim, trimStart_trimStart]
  rfl

theorem trim_trim (t : Text) : trim (trim t) = trim t := by
  have hend : trim (trim t) = trim (trimStart t) := trim_trimEnd (trimStart t)
  rw [hend, trim_trimStart]

theorem trimStart_eq_nil_of_trim {t : Text} (h : trim t = []) : trimStart t = [] := by
  have hblank : ∀ c ∈ trimStart t, isBlank c = true := by
    intro c hc
    have hnone := List.dropWhile_eq_nil_iff.1 (List.reverse_eq_nil_iff.1 h)
    exact hnone c (List.mem_reverse.2 hc)
  rw [← trimStart_trimStart]
  exact trimStart_of_blank hblank

/-- A type that is read is the whole text, trimmed. -/
theorem type?_eq {t ty : Text} (h : type? t = some ty) :
    ty = trim t ∧ ty ≠ [] ∧ '=' ∉ ty ∧ ∀ c ∈ t.head?, isBlank c = true := by
  cases t with
  | nil => cases h
  | cons c t =>
    simp only [type?] at h
    split at h
    · next hcond =>
      cases h
      simp only [Bool.and_eq_true, Bool.not_eq_true', List.isEmpty_eq_false_iff,
        List.contains_eq_mem, decide_eq_false_iff_not] at hcond
      obtain ⟨⟨hblank, hne⟩, hequals⟩ := hcond
      rw [trim_trimStart]
      refine ⟨rfl, fun hnil => hne (trimStart_eq_nil_of_trim hnil), fun hmem => hequals ?_, ?_⟩
      · rw [← trim_trimStart] at hmem
        exact trim_subset _ hmem
      · intro x hx
        obtain rfl : c = x := Option.some.inj hx
        exact hblank
    · cases h

/-- Behind a blank, any text with ink and without `=` is a type. -/
theorem exists_type? {c : Char} {t : Text} (hblank : isBlank c = true)
    (hstart : trimStart (c :: t) ≠ []) (hequals : '=' ∉ c :: t) :
    ∃ ty, type? (c :: t) = some ty := by
  have hequals' : '=' ∉ trimStart (c :: t) := fun hmem =>
    hequals ((List.dropWhile_suffix isBlank).subset hmem)
  simp [type?, hblank, hstart, hequals']

/-- Further names and a type: what is left out in front of the type has no quote. -/
theorem namesAndType?_eq {t ty : Text} {names : List Text}
    (h : namesAndType? t = some (names, ty)) :
    (∀ n ∈ names, isIdentifier n = true)
      ∧ ∃ front rest, t = front ++ rest ∧ Unquoted front ∧ type? rest = some ty := by
  -- no further name is taken where only a type is read
  have honly : ∀ {t ty : Text} {names : List Text}, (type? t).map ([], ·) = some (names, ty) →
      (∀ n ∈ names, isIdentifier n = true)
        ∧ ∃ front rest, t = front ++ rest ∧ Unquoted front ∧ type? rest = some ty := by
    intro t ty names h
    obtain ⟨ty', hty, he⟩ := Option.map_eq_some_iff.1 h
    cases he
    exact ⟨List.forall_mem_nil _, [], t, rfl, List.forall_mem_nil _, hty⟩
  fun_induction namesAndType? t generalizing names ty with
  | case1 t name rest hnext names' ty' hlater ih =>
    cases h
    obtain ⟨hname, -, front, rfl, hfront⟩ := nextName?_eq hnext
    obtain ⟨hnames, front', rest', rfl, hfront', htype⟩ := ih hlater
    exact ⟨List.forall_mem_cons.2 ⟨hname, hnames⟩, front ++ front', rest',
      (List.append_assoc ..).symm, hfront.append hfront', htype⟩
  | case2 t name rest hnext hnone ih => exact honly h
  | case3 t hnext => exact honly h

/-- **What is accepted as a variable is a list of names and a type**, and its literals are those of
    the type. -/
theorem varSpec?_eq {u : Text} {ds : List Declaration} (h : varSpec? u = some ds) :
    ∃ p : ParamList, ds = p.declarations ∧ p.type ⊆ u ∧ literals u = literals p.type := by
  rw [varSpec?] at h
  obtain ⟨⟨name, rest⟩, hname, h⟩ := Option.bind_eq_some_iff.1 h
  obtain ⟨⟨names, ty⟩, hnames, h⟩ := Option.bind_eq_some_iff.1 h
  cases h
  obtain ⟨ht, hident⟩ := identifier?_eq hname
  obtain ⟨hidents, front, rest, rfl, hfront, htype⟩ := namesAndType?_eq hnames
  obtain ⟨rfl, hne, hequals, -⟩ := type?_eq htype
  refine ⟨⟨name :: names, trim rest, List.forall_mem_cons.2 ⟨hident, hidents⟩, hne, trim_trim rest,
    hequals⟩, rfl, ?_, ?_⟩
  · intro c hc
    have hmem : c ∈ trim u := by
      rw [ht]
      exact List.mem_append_right _ (List.mem_append_right _ (trim_subset rest hc))
    exact trim_subset u hmem
  · rw [← Go.literals_trim u, ht, Go.literals_unquoted_append (unquoted_of_isIdentifier hident),
      Go.literals_unquoted_append hfront, Go.literals_trim]

end GoTemplate
