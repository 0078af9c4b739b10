/-
  Declarations read along the text.

  The reader cuts a text into lines, a line into statements, and runs each statement.  A proof that
  follows the text asks instead: what becomes of `u` when `t` stands behind it?

  1. A text SETTLES if a scan that begins in code meets no semicolon and no comment there and ends
     in code.  It belongs to one statement, whatever stands behind it: `u ++ t` has the statements
     of `t`, the first of them with `u` in front (`textStatements_append`).  There is one exception:
     a slash at the end of `u` and one at the beginning of `t` make a comment (`meetsSlash`).
  2. So to read `u ++ t` is to read `t` from another state, if that is so for the one statement
     (`Reading.through_append`).
  3. A semicolon, a line end and a comment before one separate statements and say nothing else.
  4. The parenthesis that closes a group is found behind any text with BALANCED brackets
     (`groupClose?_append`).
-/
import GoTemplate.Declaration
import GoTemplate.Proofs.Regions
import GoTemplate.Proofs.Spans
import Mathlib.Data.Bool.AllAny
import Mathlib.Data.List.TakeWhile

namespace GoTemplate

open Go (ScanState dropComment)

/-! ## Trimming -/

theorem trimStart_append (x y : Text) :
    trimStart (x ++ y) = if trimStart x = [] then trimStart y else trimStart x ++ y := by
  simp only [trimStart, List.dropWhile_append, List.isEmpty_iff]
  congr

theorem trimEnd_append (x y : Text) :
    trimEnd (x ++ y) = if trimEnd y = [] then trimEnd x else x ++ trimEnd y := by
  simp only [trimEnd, dropEndWhile, List.reverse_append, List.dropWhile_append,
    List.isEmpty_iff, List.reverse_eq_nil_iff]
  split
  · rfl
  · rw [List.reverse_append, List.reverse_reverse]

theorem trimEnd_append_cons {c : Char} (hc : isBlank c = false) (x y : Text) :
    trimEnd (x ++ c :: y) = x ++ c :: trimEnd y := by
  have hcut : x ++ c :: y = (x ++ [c]) ++ y := by simp
  rw [hcut, trimEnd_append]
  split
  · next h => rw [trimEnd, dropEndWhile_concat, hc, if_neg Bool.false_ne_true, h]
  · simp

section

variable {b : Text} (hb : ∀ c ∈ b, isBlank c = true) (t : Text)
include hb

theorem trimStart_of_blank : trimStart b = [] := List.dropWhile_eq_nil_iff.2 hb

theorem trimEnd_of_blank : trimEnd b = [] :=
  List.reverse_eq_nil_iff.2 (List.dropWhile_eq_nil_iff.2 fun c hc => hb c (List.mem_reverse.1 hc))

theorem trimStart_blank_append : trimStart (b ++ t) = trimStart t := by
  rw [trimStart_append, if_pos (trimStart_of_blank hb)]

theorem trim_blank_append : trim (b ++ t) = trim t := by
  rw [trim, trimStart_blank_append hb, trim]

theorem trim_append_blank : trim (t ++ b) = trim t := by
  rw [trim, trim, trimStart_append]
  split
  · next h => rw [h, trimStart_of_blank hb]
  · rw [trimEnd_append, if_pos (trimEnd_of_blank hb)]

end

theorem trim_trimEnd (t : Text) : trim (trimEnd t) = trim t := by
  have hcut : trimEnd t ++ (t.reverse.takeWhile isBlank).reverse = t := by
    rw [trimEnd, dropEndWhile, ← List.reverse_append, List.takeWhile_append_dropWhile,
      List.reverse_reverse]
  have hblank : ∀ c ∈ (t.reverse.takeWhile isBlank).reverse, isBlank c = true :=
    fun c hc => List.mem_takeWhile_imp (List.mem_reverse.1 hc)
  have htrim := trim_append_blank hblank (trimEnd t)
  rw [hcut] at htrim
  exact htrim.symm

theorem trimEnd_of_trim {t : Text} (h : trim t = []) : trimEnd t = [] := by
  have hcut : t.takeWhile isBlank ++ trimStart t = t := List.takeWhile_append_dropWhile
  have hblank : ∀ c ∈ t.takeWhile isBlank, isBlank c = true := fun c hc => List.mem_takeWhile_imp hc
  have hend : trimEnd (trimStart t) = [] := h
  rw [← hcut, trimEnd_append, if_pos hend, trimEnd_of_blank hblank]

/-- A text with ink at both ends. -/
structure Tight (u : Text) : Prop where
  ne_nil : u ≠ []
  start : trimStart u = u
  finish : trimEnd u = u

theorem tight_of_trim {u : Text} (hne : u ≠ []) (h : trim u = u) : Tight u := by
  have hstart : trimStart u = u := by
    have hlength : u.length ≤ (trimStart u).length :=
      calc u.length = (trim u).length := by rw [h]
        _ ≤ (trimStart u).length := length_dropEndWhile_le _ _
    exact (List.dropWhile_suffix isBlank).eq_of_length_le hlength
  refine ⟨hne, hstart, ?_⟩
  rwa [trim, hstart] at h

theorem tight_of_ink {u : Text} (hne : u ≠ []) (hu : ∀ c ∈ u, isBlank c = false) : Tight u := by
  have hdrop : ∀ v : Text, (∀ c ∈ v, isBlank c = false) → v.dropWhile isBlank = v := by
    intro v hv
    cases v with
    | nil => rfl
    | cons c v => rw [List.dropWhile_cons_of_neg (by simp [hv c List.mem_cons_self])]
  refine ⟨hne, hdrop u hu, ?_⟩
  rw [trimEnd, dropEndWhile, hdrop u.reverse fun c hc => hu c (List.mem_reverse.1 hc),
    List.reverse_reverse]

theorem tight_of_all {u : Text} (hne : u ≠ []) (hu : u.all (fun c => isBlank c = false) = true) :
    Tight u :=
  tight_of_ink hne (List.all_iff_forall_prop.1 hu)

theorem Tight.trim_append {u : Text} (hu : Tight u) (t : Text) :
    trim (u ++ t) = u ++ trimEnd t := by
  rw [trim, trimStart_append, hu.start, if_neg hu.ne_nil, trimEnd_append]
  split
  · next h => rw [h, List.append_nil, hu.finish]
  · rfl

theorem Tight.trim {u : Text} (hu : Tight u) : trim u = u := by
  rw [GoTemplate.trim, hu.start, hu.finish]

theorem Tight.append {u v : Text} (hu : Tight u) (hv : Tight v) (t : Text) :
    Tight (u ++ t ++ v) := by
  refine ⟨?_, ?_, ?_⟩
  · simp [hu.ne_nil]
  · rw [List.append_assoc, trimStart_append, hu.start, if_neg hu.ne_nil]
  · rw [trimEnd_append, hv.finish, if_neg hv.ne_nil]

/-! ## Texts that settle -/

/-- A scan from state `s` meets no semicolon and no comment in code, and ends in code. -/
def settles (s : ScanState) : Text → Bool
  | [] => s == .code
  | c :: t => !s.atComment (c :: t) && !(s == .code && c == ';') && settles (s.next c) t

/-- A slash at the end of `u` and one at the beginning of `t`: put together, they are a comment. -/
def meetsSlash (u t : Text) : Bool := u.getLast? == some '/' && t.head? == some '/'

theorem meetsSlash_of_cons {c : Char} {u t : Text} (h : meetsSlash (c :: u) t = false) :
    meetsSlash u t = false := by
  cases u with
  | nil => rfl
  | cons d u => rwa [meetsSlash, List.getLast?_cons_cons] at h

/-- A comment that begins in `c :: u` does so whatever stands behind. -/
theorem atComment_append (s : ScanState) (c : Char) (u : Text) {t : Text}
    (hmeet : meetsSlash (c :: u) t = false) :
    s.atComment (c :: u ++ t) = s.atComment (c :: u) := by
  have hslashes : "//".toList.isPrefixOf (c :: u ++ t) = "//".toList.isPrefixOf (c :: u) := by
    cases u with
    | nil =>
      cases t with
      | nil => rfl
      | cons d t =>
        -- the two slashes would stand on either side of the seam
        have hseam : '/' = c → '/' ≠ d := by
          rintro rfl rfl
          exact Bool.false_ne_true hmeet.symm
        simpa [List.isPrefixOf] using hseam
    | cons d u => rfl
  rw [ScanState.atComment, ScanState.atComment, hslashes]

theorem dropComment_append {s : ScanState} {u t : Text} (hu : settles s u = true)
    (hmeet : meetsSlash u t = false) : dropComment s (u ++ t) = u ++ dropComment .code t := by
  induction u generalizing s with
  | nil => rw [eq_of_beq hu]; rfl
  | cons c u ih =>
    simp only [settles, Bool.and_eq_true, Bool.not_eq_true'] at hu
    obtain ⟨⟨hcomment, _⟩, hu⟩ := hu
    have hstart := (atComment_append s c u hmeet).trans hcomment
    rw [List.cons_append] at hstart ⊢
    rw [dropComment, hstart, if_neg Bool.false_ne_true, ih hu (meetsSlash_of_cons hmeet),
      List.cons_append]

theorem settles_append {s : ScanState} {u v : Text} (hu : settles s u = true)
    (hv : settles .code v = true) (hmeet : meetsSlash u v = false) : settles s (u ++ v) = true := by
  induction u generalizing s with
  | nil => rw [eq_of_beq hu]; exact hv
  | cons c u ih =>
    rw [settles, Bool.and_eq_true] at hu
    rw [List.cons_append, settles, ← List.cons_append, atComment_append s c u hmeet, hu.1,
      ih hu.2 (meetsSlash_of_cons hmeet)]
    rfl

/-- The characters that end a line or a statement, begin a comment, open a literal or are
    brackets. -/
def marks : Text := "\n;/\"'\x60()[]\x7b\x7d".toList

theorem next_of_plain {c : Char} (hc : c ∉ marks) : ScanState.code.next c = .code := by
  have hquote : ∀ m, Go.isQuote m = true → m ∈ marks := by
    intro m hm
    simp only [Go.isQuote, Bool.or_eq_true, beq_iff_eq] at hm
    rcases hm with (rfl | rfl) | rfl <;> decide
  exact if_neg fun h => hc (hquote c h)

theorem settles_of_plain {u : Text} (hu : ∀ c ∈ u, c ∉ marks) : settles .code u = true := by
  induction u with
  | nil => rfl
  | cons c u ih =>
    obtain ⟨hc, hu⟩ := List.forall_mem_cons.1 hu
    have hslash : '/' ≠ c := by rintro rfl; exact hc (by decide)
    have hsemicolon : c ≠ ';' := by rintro rfl; exact hc (by decide)
    simp [settles, next_of_plain hc, ih hu, ScanState.atComment, List.isPrefixOf, hslash,
      hsemicolon]

theorem meetsSlash_of_plain {u : Text} (hu : ∀ c ∈ u, c ∉ marks) (t : Text) :
    meetsSlash u t = false := by
  have hlast : u.getLast? ≠ some '/' := fun h =>
    hu '/' (List.mem_of_getLast? h) (by decide)
  simp [meetsSlash, hlast]

/-- A text that is part of one statement. -/
structure Settled (u : Text) : Prop where
  newline : '\n' ∉ u
  scan : settles .code u = true

theorem settled_of_plain {u : Text} (hu : ∀ c ∈ u, c ∉ marks) : Settled u :=
  ⟨fun h => hu '\n' h (by decide), settles_of_plain hu⟩

theorem Settled.append {u v : Text} (hu : Settled u) (hv : Settled v)
    (hmeet : meetsSlash u v = false) : Settled (u ++ v) :=
  ⟨by simp [hu.newline, hv.newline], settles_append hu.scan hv.scan hmeet⟩

/-- Read inside a string literal, after a backslash if `escaped`, a text ends inside it and leaves
    it nowhere. -/
def staysInside (escaped : Bool) : Text → Bool
  | [] => !escaped
  | c :: t => if escaped then staysInside false t else c != '"' && staysInside (c == '\\') t

theorem staysInside_of_plain {body : Text} (hbody : ∀ c ∈ body, c ≠ '"' ∧ c ≠ '\\') :
    staysInside false body = true := by
  induction body with
  | nil => rfl
  | cons c body ih =>
    obtain ⟨hc, hbody⟩ := List.forall_mem_cons.1 hbody
    rw [staysInside, if_neg Bool.false_ne_true, beq_false_of_ne hc.2, bne_iff_ne.2 hc.1, ih hbody]
    rfl

/-- A character of a literal that is not its end. -/
theorem next_inside {escaped : Bool} {c : Char} (hc : escaped = true ∨ c ≠ '"') :
    (ScanState.literal '"' escaped).next c = .literal '"' (!escaped && c == '\\') := by
  cases escaped with
  | true => rfl
  | false =>
    have hquote : c ≠ '"' := hc.resolve_left Bool.false_ne_true
    by_cases hslash : c = '\\'
    · subst hslash
      rfl
    · rw [ScanState.next, if_neg fun h => hslash h.1, if_neg hquote, beq_false_of_ne hslash]
      rfl

theorem staysInside_cons {escaped : Bool} {c : Char} {t : Text}
    (h : staysInside escaped (c :: t) = true) :
    (escaped = true ∨ c ≠ '"') ∧ staysInside (!escaped && c == '\\') t = true := by
  rw [staysInside] at h
  cases escaped with
  | true => exact ⟨.inl rfl, h⟩
  | false =>
    obtain ⟨hc, hrest⟩ := Bool.and_eq_true_iff.1 h
    exact ⟨.inr (bne_iff_ne.1 hc), hrest⟩

/-- Whether a scan settles is decided behind the literal. -/
theorem settles_inside {escaped : Bool} {body : Text} (hbody : staysInside escaped body = true)
    (t : Text) :
    settles (.literal '"' escaped) (body ++ '"' :: t) = settles .code t := by
  induction body generalizing escaped with
  | nil =>
    cases escaped with
    | false => rfl
    | true => exact absurd hbody Bool.false_ne_true
  | cons c body ih =>
    obtain ⟨hc, hrest⟩ := staysInside_cons hbody
    rw [List.cons_append, settles, next_inside hc, ih hrest]
    rfl

theorem splitStatements_append {s : ScanState} {u t p : Text} {ps : List Text}
    (hu : settles s u = true) (ht : splitStatements .code t = p :: ps) :
    splitStatements s (u ++ t) = (u ++ p) :: ps := by
  induction u generalizing s with
  | nil => rw [eq_of_beq hu]; exact ht
  | cons c u ih =>
    simp only [settles, Bool.and_eq_true, Bool.not_eq_true'] at hu
    obtain ⟨⟨_, hsemicolon⟩, hu⟩ := hu
    have hcut : ¬(s = .code ∧ c = ';') := by
      rintro ⟨rfl, rfl⟩
      exact absurd hsemicolon (by decide)
    rw [List.cons_append, splitStatements, if_neg hcut, ih hu]
    rfl

theorem splitStatements_ne_nil (s : ScanState) (t : Text) : splitStatements s t ≠ [] := by
  cases t with
  | nil => exact List.cons_ne_nil _ _
  | cons c t =>
    rw [splitStatements]
    split
    · exact List.cons_ne_nil _ _
    · split <;> exact List.cons_ne_nil _ _

/-- A text in front that settles goes to the first statement of a line. -/
theorem statements_append {u l p : Text} {ps : List Text} (hu : settles .code u = true)
    (hmeet : meetsSlash u l = false) (hl : statements l = p :: ps) :
    statements (u ++ l) = (u ++ p) :: ps := by
  rw [statements, dropComment_append hu hmeet]
  exact splitStatements_append hu hl

/-! ## Lines -/

theorem lineSpans_append {u t l : Text} {ls : List Text} (hu : '\n' ∉ u)
    (ht : lineSpans t = l :: ls) : lineSpans (u ++ t) = (u ++ l) :: ls := by
  induction u with
  | nil => exact ht
  | cons c u ih =>
    rw [List.cons_append, lineSpans, if_neg (List.ne_of_not_mem_cons hu).symm,
      ih (List.not_mem_of_not_mem_cons hu)]
    rfl

theorem eq_nil_of_lineSpans {t : Text} (h : lineSpans t = []) : t = [] := by
  rw [← flatten_lineSpans t, h]
  rfl

theorem head?_of_lineSpans {t l : Text} {ls : List Text} (h : lineSpans t = l :: ls) :
    l.head? = t.head? := by
  cases t with
  | nil => nomatch h
  | cons c t =>
    rw [lineSpans] at h
    split at h
    · cases h; rfl
    · split at h <;> cases h <;> rfl

/-- The statements of all lines of a text. -/
def textStatements (t : Text) : List Text := (lineSpans t).flatMap statements

/-- The statement a text begins with; empty if the text is. -/
def firstStatement (t : Text) : Text := (textStatements t).headD []

/-- The statements behind the first. -/
def laterStatements (t : Text) : List Text := (textStatements t).tail

theorem textStatements_of_line {t l p : Text} {ls ps : List Text} (ht : lineSpans t = l :: ls)
    (hl : statements l = p :: ps) : textStatements t = p :: (ps ++ ls.flatMap statements) := by
  rw [textStatements, ht, List.flatMap_cons, hl, List.cons_append]

/-- **A settled text in front goes to the first statement.** -/
theorem textStatements_append {u t : Text} (hu : Settled u) (hmeet : meetsSlash u t = false) :
    firstStatement (u ++ t) = u ++ firstStatement t
      ∧ laterStatements (u ++ t) = laterStatements t := by
  rw [firstStatement, firstStatement, laterStatements, laterStatements]
  cases ht : lineSpans t with
  | nil =>
    obtain rfl := eq_nil_of_lineSpans ht
    by_cases hempty : u = []
    · rw [hempty]; exact ⟨rfl, rfl⟩
    · have hline := statements_append hu.scan hmeet (show statements [] = [[]] from rfl)
      rw [List.append_nil] at hline ⊢
      rw [textStatements_of_line (lineSpans_of_not_mem hu.newline hempty) hline]
      exact ⟨(List.append_nil u).symm, rfl⟩
  | cons l ls =>
    obtain ⟨p, ps, hp⟩ : ∃ p ps, statements l = p :: ps :=
      List.exists_cons_of_ne_nil (splitStatements_ne_nil _ _)
    have hmeet' : meetsSlash u l = false := by rwa [meetsSlash, head?_of_lineSpans ht]
    have hline := statements_append hu.scan hmeet' hp
    rw [textStatements_of_line ht hp,
      textStatements_of_line (lineSpans_append hu.newline ht) hline]
    exact ⟨rfl, rfl⟩

/-! ## Reading -/

/-- Statements in turn. -/
def Reading.runAll (r : Reading) (stmts : List Text) : Option Reading :=
  stmts.foldlM (fun r stmt => r.run (trim stmt)) r

/-- The reader along a whole text. -/
def Reading.through (r : Reading) (t : Text) : Option Reading := r.runAll (textStatements t)

theorem Reading.run_nil (r : Reading) : r.run [] = some r := by rw [Reading.run]

theorem Reading.run_step (r : Reading) {stmt : Text} (hne : stmt ≠ []) :
    r.run stmt = (r.step stmt).bind fun p => p.1.run p.2 := by
  obtain ⟨c, t, rfl⟩ := List.exists_cons_of_ne_nil hne
  rw [Reading.run]
  split
  · next r' rest h => rw [h]; rfl
  · next h => rw [h]; rfl

theorem Reading.run_of_step {r r' : Reading} {stmt rest : Text} (hne : stmt ≠ [])
    (h : r.step stmt = some (r', rest)) : r.run stmt = r'.run rest := by
  rw [r.run_step hne, h]
  rfl

theorem Reading.through_eq (r : Reading) (t : Text) :
    r.through t = (r.run (trim (firstStatement t))).bind (·.runAll (laterStatements t)) := by
  rw [Reading.through, firstStatement, laterStatements]
  cases textStatements t with
  | nil => exact (congrArg (Option.bind · _) r.run_nil).symm
  | cons p ps => rfl

/-- A settled text in front is read with the one statement it belongs to. -/
theorem Reading.through_bind {r : Reading} {f : Option Reading} {u t : Text} (hu : Settled u)
    (hmeet : meetsSlash u t = false)
    (hrun : r.run (trim (u ++ firstStatement t)) = f.bind (·.run (trim (firstStatement t)))) :
    r.through (u ++ t) = f.bind (·.through t) := by
  obtain ⟨hfirst, hlater⟩ := textStatements_append hu hmeet
  rw [Reading.through_eq, hfirst, hlater, hrun, Option.bind_assoc]
  simp only [Reading.through_eq]

/-- **A settled text changes the state in which the rest is read**, if it does so for the one
    statement it belongs to. -/
theorem Reading.through_append {r r' : Reading} {u t : Text} (hu : Settled u)
    (hmeet : meetsSlash u t = false)
    (hrun : r.run (trim (u ++ firstStatement t)) = r'.run (trim (firstStatement t))) :
    r.through (u ++ t) = r'.through t :=
  Reading.through_bind (f := some r') hu hmeet hrun

/-! ## Separators -/

theorem Reading.runAll_cons_blank (r : Reading) {p : Text} (hp : trim p = []) (ps : List Text) :
    r.runAll (p :: ps) = r.runAll ps := by
  show (r.run (trim p)).bind (·.runAll ps) = r.runAll ps
  rw [hp, Reading.run_nil]
  rfl

/-- A text that ends a statement and says nothing of its own. -/
structure Separates (sep : Text) : Prop where
  ends : ∀ t, trim (firstStatement (sep ++ t)) = []
  passes : ∀ (r : Reading) (t : Text), r.through (sep ++ t) = r.through t

/-- One empty statement in front makes a separator. -/
theorem separates_of_cons {sep p : Text} (hp : trim p = [])
    (h : ∀ t, textStatements (sep ++ t) = p :: textStatements t) : Separates sep where
  ends t := by rw [firstStatement, h]; exact hp
  passes r t := by rw [Reading.through, h, Reading.runAll_cons_blank r hp, Reading.through]

theorem separates_newline : Separates ['\n'] :=
  separates_of_cons (p := ['\n']) (by decide) fun _ => rfl

theorem separates_comment {comment : Text} (hc : '\n' ∉ comment) :
    Separates ("//".toList ++ comment ++ ['\n']) := by
  refine separates_of_cons (p := []) rfl fun t => ?_
  have hline : '\n' ∉ "//".toList ++ comment := by simp [hc]
  rw [textStatements, List.append_assoc, List.singleton_append, lineSpans_append_newline hline]
  rfl

theorem separates_semicolon : Separates [';'] := by
  have hstatements : ∀ l : Text, statements (';' :: l) = [] :: statements l := fun _ => rfl
  have hcut : ∀ {t l : Text} {ls : List Text}, lineSpans t = l :: ls →
      textStatements ([';'] ++ t) = [] :: textStatements t := by
    intro t l ls ht
    have hspans : lineSpans ([';'] ++ t) = (';' :: l) :: ls := lineSpans_append (by decide) ht
    rw [textStatements, textStatements, hspans, ht, List.flatMap_cons, hstatements]
    rfl
  -- at the end of the text a semicolon leaves two empty statements
  have hlast : textStatements [';'] = [[], []] := rfl
  refine ⟨fun t => ?_, fun r t => ?_⟩
  · cases ht : lineSpans t with
    | nil => rw [eq_nil_of_lineSpans ht]; rfl
    | cons l ls => rw [firstStatement, hcut ht]; rfl
  · cases ht : lineSpans t with
    | nil =>
      rw [eq_nil_of_lineSpans ht, List.append_nil, Reading.through, hlast,
        Reading.runAll_cons_blank r rfl, Reading.runAll_cons_blank r rfl]
      rfl
    | cons l ls =>
      rw [Reading.through, hcut ht, Reading.runAll_cons_blank r rfl, Reading.through]

/-! ## Blanks inside a line -/

/-- Blanks that end no line. -/
structure Spacing where
  text : Text
  blank : ∀ c ∈ text, isBlank c = true
  newline : '\n' ∉ text

theorem Spacing.plain (b : Spacing) : ∀ c ∈ b.text, c ∉ marks := by
  intro c hc hmark
  have hink : ∀ m ∈ marks, m = '\n' ∨ isBlank m = false :=
    List.all_iff_forall_prop.1 (by decide)
  rcases hink c hmark with rfl | hink
  · exact b.newline hc
  · exact Bool.false_ne_true (hink.symm.trans (b.blank c hc))

theorem Spacing.settled (b : Spacing) : Settled b.text := settled_of_plain b.plain

theorem Spacing.meetsSlash (b : Spacing) (t : Text) : meetsSlash b.text t = false :=
  meetsSlash_of_plain b.plain t

theorem Spacing.through (b : Spacing) (r : Reading) (t : Text) :
    r.through (b.text ++ t) = r.through t :=
  Reading.through_append b.settled (b.meetsSlash t) (by rw [trim_blank_append b.blank])

theorem Spacing.separates (b : Spacing) {sep : Text} (h : Separates sep) :
    Separates (b.text ++ sep) where
  ends t := by
    rw [List.append_assoc, (textStatements_append b.settled (b.meetsSlash _)).1,
      trim_blank_append b.blank, h.ends]
  passes r t := by rw [List.append_assoc, b.through, h.passes]

/-! ## A text that has been read -/

theorem splitStatements_concat {c : Char} (hc : c ≠ ';') (s : ScanState) (t : Text) :
    ∃ front last, splitStatements s t = front ++ [last]
      ∧ splitStatements s (t ++ [c]) = front ++ [last ++ [c]] := by
  induction t generalizing s with
  | nil => exact ⟨[], [], rfl, by simp [splitStatements, hc]⟩
  | cons d t ih =>
    rw [List.cons_append, splitStatements, splitStatements]
    split
    · obtain ⟨front, last, h, h'⟩ := ih .code
      exact ⟨[] :: front, last, congrArg _ h, congrArg _ h'⟩
    · obtain ⟨front, last, h, h'⟩ := ih (s.next d)
      rw [h, h']
      cases front with
      | nil => exact ⟨[], d :: last, rfl, rfl⟩
      | cons p front => exact ⟨(d :: p) :: front, last, rfl, rfl⟩

theorem dropComment_concat {c : Char} (hc : c ≠ '/') (s : ScanState) (t : Text) :
    dropComment s (t ++ [c]) = dropComment s t ++ [c]
      ∨ dropComment s (t ++ [c]) = dropComment s t := by
  induction t generalizing s with
  | nil =>
    have hone : s.atComment [c] = false := by simp [ScanState.atComment, List.isPrefixOf]
    exact .inl (if_neg (by rw [hone]; exact Bool.false_ne_true))
  | cons d t ih =>
    have hmeet : meetsSlash (d :: t) [c] = false := by simp [meetsSlash, hc]
    have hstart := atComment_append s d t hmeet
    rw [List.cons_append] at hstart ⊢
    rw [dropComment, dropComment, hstart]
    split
    · exact .inr rfl
    · exact (ih (s.next d)).imp (congrArg (d :: ·)) (congrArg (d :: ·))

/-- A blank at the end of a line is not seen. -/
theorem Reading.line_concat {c : Char} (hc : isBlank c = true) (r : Reading) (l : Text) :
    r.line (l ++ [c]) = r.line l := by
  have hsemicolon : c ≠ ';' := by rintro rfl; exact absurd hc (by decide)
  have hslash : c ≠ '/' := by rintro rfl; exact absurd hc (by decide)
  rw [Reading.line, Reading.line, statements, statements]
  rcases dropComment_concat hslash .code l with h | h
  · obtain ⟨front, last, h₁, h₂⟩ := splitStatements_concat hsemicolon .code (dropComment .code l)
    rw [h, h₁, h₂, List.foldlM_append, List.foldlM_append]
    have htrim := trim_append_blank (b := [c]) (by simpa using hc) last
    simp only [List.foldlM_cons, htrim]
  · rw [h]

theorem Reading.line_chomp (r : Reading) (span : Text) : r.line (chomp span) = r.line span :=
  apply_chomp (fun l _ hc => r.line_concat hc l) span

theorem Reading.foldlM_line (r : Reading) (ls : List Text) :
    ls.foldlM Reading.line r = r.runAll (ls.flatMap statements) := by
  induction ls generalizing r with
  | nil => rfl
  | cons l ls ih =>
    rw [List.foldlM_cons, List.flatMap_cons, Reading.runAll, List.foldlM_append]
    exact congrArg (Option.bind (r.line l)) (funext ih)

theorem Reading.lines_of_foldlM {r r' : Reading} {ls : List Text} (n : Nat)
    (h : ls.foldlM Reading.line r = some r') : Reading.lines n r ls = .ok r' := by
  induction ls generalizing n r with
  | nil => cases h; rfl
  | cons l ls ih =>
    rw [List.foldlM_cons] at h
    obtain ⟨r₁, hline, hrest⟩ := Option.bind_eq_some_iff.1 h
    rw [Reading.lines, hline]
    exact ih (n + 1) hrest

/-- **What the reader makes of the whole text is the answer**, if no group is left open. -/
theorem parseDeclarations_of_through {t : Text} {ds : List Declaration}
    (h : ({} : Reading).through t = some ⟨ds, none⟩) : parseDeclarations t = .ok ds := by
  have hfold : (lines t).foldlM Reading.line {} = some ⟨ds, none⟩ := by
    rw [← h, lines, List.foldlM_map]
    simp only [Reading.line_chomp]
    exact Reading.foldlM_line {} (lineSpans t)
  rw [parseDeclarations, Reading.lines_of_foldlM 1 hfold]

/-! ## Groups -/

/-- From state `s` at depth `depth`, brackets in code close only what is open, and all of it. -/
def balanced (s : ScanState) (depth : Nat) : Text → Bool
  | [] => depth == 0
  | c :: t =>
    if s = .code ∧ (c = ')' ∨ c = ']' ∨ c = '\x7d') ∧ depth = 0 then false
    else balanced (s.next c) (if s = .code then bracketDepth depth c else depth) t

theorem balanced_append {s : ScanState} {depth : Nat} {u v : Text} (hu : settles s u = true)
    (hb : balanced s depth u = true) (hv : balanced .code 0 v = true) :
    balanced s depth (u ++ v) = true := by
  induction u generalizing s depth with
  | nil => rw [eq_of_beq hu, eq_of_beq hb]; exact hv
  | cons c u ih =>
    obtain ⟨_, hu⟩ := Bool.and_eq_true_iff.1 hu
    rw [List.cons_append]
    rw [balanced] at hb ⊢
    split at hb
    · nomatch hb
    · next hclose => rw [if_neg hclose, ih hu hb]

theorem balanced_of_plain {u : Text} (hu : ∀ c ∈ u, c ∉ marks) : balanced .code 0 u = true := by
  induction u with
  | nil => rfl
  | cons c u ih =>
    obtain ⟨hc, hu⟩ := List.forall_mem_cons.1 hu
    have hopening : ¬(c = '(' ∨ c = '[' ∨ c = '\x7b') := by
      rintro (rfl | rfl | rfl) <;> exact hc (by decide)
    have hclosing : ¬(c = ')' ∨ c = ']' ∨ c = '\x7d') := by
      rintro (rfl | rfl | rfl) <;> exact hc (by decide)
    have hdepth : bracketDepth 0 c = 0 := by rw [bracketDepth, if_neg hopening, if_neg hclosing]
    rw [balanced, if_neg fun h => hclosing h.2.1, if_pos rfl, hdepth, next_of_plain hc, ih hu]

/-- Whether brackets are balanced is decided behind the literal. -/
theorem balanced_inside {escaped : Bool} {body : Text} (hbody : staysInside escaped body = true)
    (depth : Nat) (t : Text) :
    balanced (.literal '"' escaped) depth (body ++ '"' :: t) = balanced .code depth t := by
  have hstate : ∀ e : Bool, ScanState.literal '"' e ≠ .code := fun _ => ScanState.noConfusion
  induction body generalizing escaped with
  | nil =>
    cases escaped with
    | false => rfl
    | true => exact absurd hbody Bool.false_ne_true
  | cons c body ih =>
    obtain ⟨hc, hrest⟩ := staysInside_cons hbody
    rw [List.cons_append, balanced, if_neg fun h => hstate escaped h.1, if_neg (hstate escaped),
      next_inside hc, ih hrest]

/-- **A group is closed behind a text with balanced brackets as if the text were not there.** -/
theorem groupClose?_append {s : ScanState} {depth : Nat} {u : Text} (hu : settles s u = true)
    (hb : balanced s depth u = true) (t : Text) :
    groupClose? s depth (u ++ t)
      = (groupClose? .code 0 t).map fun (front, rest) => (u ++ front, rest) := by
  induction u generalizing s depth with
  | nil =>
    rw [eq_of_beq hu, eq_of_beq hb, List.nil_append]
    cases groupClose? .code 0 t <;> rfl
  | cons c u ih =>
    obtain ⟨_, hu⟩ := Bool.and_eq_true_iff.1 hu
    rw [balanced] at hb
    split at hb
    · nomatch hb
    · next hclose =>
      have hopen : ¬(s = .code ∧ c = ')' ∧ depth = 0) := fun h => hclose ⟨h.1, .inl h.2.1, h.2.2⟩
      rw [List.cons_append, groupClose?, if_neg hopen, ih hu hb]
      cases groupClose? .code 0 t <;> rfl

end GoTemplate
