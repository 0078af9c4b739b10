/-
  Raw string literals and the indentation of a body.

  `rawLiterals` reads Go source from left to right, by the rules of the language: interpreted
  strings and runes with their escapes, which end at the latest with the line, raw strings, and both
  kinds of comments.  It yields the values of the raw literals, without carriage returns.

  Indentation may put a tab in front of a line.  That is harmless in code and in a comment, and
  changes the value of a raw literal that the line continues.  So the values stay exactly if every
  line that continues a raw literal with an end is taken for one, an empty line apart
  (`rawLiterals_indentBody_iff`).

  1. A line end, with or without a carriage return, leads every place to the same next one
     (`run_chomp`), so the body may be read as its lines.
  2. The scan that indentation makes of a line goes along with the reader as long as the reader
     meets no block comment (`endsInRaw_eq`): it does not know them.
  3. The induction over the lines compares a literal with the same literal and tabs in it, which is
     LONGER (`Swollen`), and so differs as soon as it is closed.
-/
import GoTemplate.Go.File
import GoTemplate.Proofs.Regions

namespace GoTemplate.Go

/-! ## A reader of Go source -/

/-- Where a reader of Go source stands. -/
inductive Place where
  | code
  /-- In code, right behind a slash that may start a comment. -/
  | slash
  /-- In an interpreted string or a rune; `escaped` right behind a backslash. -/
  | quoted (quote : Char) (escaped : Bool)
  /-- In a raw string, with its value so far. -/
  | raw (read : Text)
  | lineComment
  | blockComment
  /-- In a block comment, right behind a star that may end it. -/
  | star
deriving DecidableEq

namespace Place

/-- The place behind a character of code. -/
def ofCode (c : Char) : Place :=
  if c = '/' then .slash
  else if c = '\x60' then .raw []
  else if c = '"' ∨ c = '\'' then .quoted c false
  else .code

/-- The place behind one more character. -/
def next : Place → Char → Place
  | .code, c => ofCode c
  | .slash, c => if c = '/' then .lineComment else if c = '*' then .blockComment else ofCode c
  | .quoted q escaped, c =>
    if c = '\n' then .code
    else if escaped then .quoted q false
    else if c = '\\' then .quoted q true
    else if c = q then .code
    else .quoted q false
  | .raw read, c =>
    if c = '\x60' then .code else if c = '\r' then .raw read else .raw (read ++ [c])
  | .lineComment, c => if c = '\n' then .code else .lineComment
  | .blockComment, c => if c = '*' then .star else .blockComment
  | .star, c => if c = '/' then .code else if c = '*' then .star else .blockComment

/-- The value of the raw literal that a character closes, if it closes one. -/
def closes : Place → Char → List Text
  | .raw read, c => if c = '\x60' then [read] else []
  | _, _ => []

/-- The place behind a text. -/
def run (p : Place) (t : Text) : Place := t.foldl next p

/-- In a raw string. -/
def isRaw : Place → Bool
  | .raw _ => true
  | _ => false

/-- In a block comment. -/
def inBlockComment : Place → Bool
  | .blockComment | .star => true
  | _ => false

/-- No block comment is met in a text. -/
def avoidsBlockComments (p : Place) : Text → Bool
  | [] => true
  | c :: t => !(p.next c).inBlockComment && (p.next c).avoidsBlockComments t

end Place

/-- The values of the raw literals that are closed in a text. -/
def rawLiterals (p : Place) : Text → List Text
  | [] => []
  | c :: t => p.closes c ++ rawLiterals (p.next c) t

example : rawLiterals .code "a := `b\r\n` // `\nc /* ` */ + \"`\" + `d`".toList
    = ["b\n".toList, "d".toList] := by decide

theorem Place.run_append (p : Place) (s t : Text) : p.run (s ++ t) = (p.run s).run t :=
  List.foldl_append

theorem rawLiterals_append (p : Place) (s t : Text) :
    rawLiterals p (s ++ t) = rawLiterals p s ++ rawLiterals (p.run s) t := by
  induction s generalizing p with
  | nil => rfl
  | cons c s ih =>
    rw [List.cons_append, rawLiterals, rawLiterals, ih, List.append_assoc]
    rfl

theorem Place.avoidsBlockComments_append (p : Place) (s t : Text) :
    p.avoidsBlockComments (s ++ t)
      = (p.avoidsBlockComments s && (p.run s).avoidsBlockComments t) := by
  induction s generalizing p with
  | nil => rfl
  | cons c s ih =>
    rw [List.cons_append, avoidsBlockComments, avoidsBlockComments, ih, Bool.and_assoc]
    rfl

/-! ## Line ends -/

/-- A line begins in code, in a block comment or in a raw string. -/
inductive Place.StartsLine : Place → Prop
  | code : StartsLine .code
  | blockComment : StartsLine .blockComment
  | raw (read : Text) : StartsLine (.raw read)

theorem Place.startsLine_next (p : Place) : (p.next '\n').StartsLine := by
  cases p with
  | raw read => exact .raw _
  | blockComment | star => exact .blockComment
  | code | slash | quoted | lineComment => exact .code

theorem Place.isRaw_next (p : Place) : (p.next '\n').isRaw = p.isRaw := by
  cases p <;> rfl

theorem Place.closes_newline (p : Place) : p.closes '\n' = [] := by
  cases p <;> rfl

/-- A carriage return before a line feed makes no difference. -/
theorem Place.next_return (p : Place) :
    (p.next '\r').next '\n' = p.next '\n' ∧ p.closes '\r' = [] := by
  cases p with
  | quoted q escaped =>
    refine ⟨?_, rfl⟩
    rw [Place.next, if_neg (by decide)]
    cases escaped with
    | true => rfl
    | false =>
      rw [if_neg Bool.false_ne_true, if_neg (by decide)]
      split <;> rfl
  | code | slash | raw | lineComment | blockComment | star => exact ⟨rfl, rfl⟩

theorem Place.inBlockComment_next {p : Place} (h : p.inBlockComment = false) :
    (p.next '\n').inBlockComment = false := by
  cases p with
  | blockComment | star => cases h
  | code | slash | quoted | raw | lineComment => rfl

/-- **A line reads the same without its carriage return.** -/
theorem run_chomp (p : Place) (l : Text) :
    p.run (chomp (l ++ ['\n']) ++ ['\n']) = p.run (l ++ ['\n'])
      ∧ rawLiterals p (chomp (l ++ ['\n']) ++ ['\n']) = rawLiterals p (l ++ ['\n'])
      ∧ (p.avoidsBlockComments (l ++ ['\n']) = true →
          p.avoidsBlockComments (chomp (l ++ ['\n']) ++ ['\n']) = true) := by
  rcases chomp_concat l with hchomp | ⟨front, rfl, hchomp⟩
  · rw [hchomp]
    exact ⟨rfl, rfl, id⟩
  · obtain ⟨hnext, hcloses⟩ := (p.run front).next_return
    rw [hchomp, List.append_assoc]
    refine ⟨?_, ?_, ?_⟩
    · rw [p.run_append, p.run_append]
      exact hnext.symm
    · rw [rawLiterals_append, rawLiterals_append]
      simp [rawLiterals, hcloses, Place.closes_newline]
    · rw [p.avoidsBlockComments_append, p.avoidsBlockComments_append]
      simp only [List.singleton_append, Place.avoidsBlockComments, hnext, Bool.and_true,
        Bool.and_eq_true]
      exact fun h => ⟨h.1, h.2.2⟩

/-! ## A body and its lines -/

/-- Lines as a text, each with a line feed. -/
def unlines (ls : List Text) : Text := ls.flatMap (· ++ ['\n'])

theorem unlines_cons (l : Text) (ls : List Text) :
    unlines (l :: ls) = (l ++ ['\n']) ++ unlines ls :=
  List.flatMap_cons

theorem Place.inBlockComment_run {p : Place} (hp : p.inBlockComment = false) (t : Text)
    (h : p.avoidsBlockComments t = true) : (p.run t).inBlockComment = false := by
  induction t generalizing p with
  | nil => exact hp
  | cons c t ih =>
    rw [avoidsBlockComments, Bool.and_eq_true, Bool.not_eq_true'] at h
    exact ih h.1 h.2

/-- Lines without their ends read like the lines they come from. -/
theorem unlines_chomp {ls : List Text} (hs : Spans ls) (p : Place) :
    rawLiterals p (unlines (ls.map chomp)) = rawLiterals p ls.flatten
      ∧ (p.inBlockComment = false → p.avoidsBlockComments ls.flatten = true →
          p.avoidsBlockComments (unlines (ls.map chomp)) = true) := by
  induction hs generalizing p with
  | nil => exact ⟨rfl, fun _ _ => rfl⟩
  | @last l hl _ =>
    rw [List.map_singleton, chomp_of_not_mem hl, List.flatten_singleton, unlines_cons,
      show unlines [] = [] from rfl, List.append_nil]
    constructor
    · rw [rawLiterals_append]
      simp [rawLiterals, Place.closes_newline]
    · intro hp h
      have hrun := Place.inBlockComment_next (Place.inBlockComment_run hp l h)
      rw [p.avoidsBlockComments_append, h]
      simp [Place.avoidsBlockComments, hrun]
  | @cons l ls _ _ ih =>
    obtain ⟨hrun, hliterals, havoids⟩ := run_chomp p l
    obtain ⟨hrest, havoidsRest⟩ := ih (p.run (l ++ ['\n']))
    rw [List.map_cons, unlines_cons, List.flatten_cons]
    constructor
    · rw [rawLiterals_append p (_ ++ _), hliterals, hrun, hrest, ← rawLiterals_append]
    · intro hp h
      rw [p.avoidsBlockComments_append, Bool.and_eq_true] at h
      rw [p.avoidsBlockComments_append, hrun, havoids h.1,
        havoidsRest (Place.inBlockComment_run hp _ h.1) h.2]
      rfl

theorem rawLiterals_unlines_lines (body : Text) :
    rawLiterals .code (unlines (lines body)) = rawLiterals .code body := by
  have hread := (unlines_chomp (spans_lineSpans body) .code).1
  rwa [flatten_lineSpans] at hread

theorem newline_not_mem_lines (body : Text) : ∀ l ∈ lines body, '\n' ∉ l := by
  rw [lines]
  have hspans := spans_lineSpans body
  generalize lineSpans body = ls at hspans
  induction hspans with
  | nil => exact fun l hl => absurd hl List.not_mem_nil
  | last hl _ =>
    intro m hm
    rw [List.map_singleton, chomp_of_not_mem hl] at hm
    rwa [List.mem_singleton.1 hm]
  | @cons l ls hl _ ih =>
    intro m hm
    rcases List.mem_cons.1 hm with rfl | hm
    · rcases chomp_concat l with hchomp | ⟨front, rfl, hchomp⟩
      · rwa [hchomp]
      · rw [hchomp]
        exact fun h => hl (List.mem_append_left _ h)
    · exact ih m hm

/-! ## The scan of a line -/

/-- The scan of a line stands where the reader stands. -/
inductive Alike : ScanState → Place → Prop
  | code : Alike .code .code
  | quoted {q : Char} (escaped : Bool) : q ≠ '\x60' → Alike (.literal q escaped) (.quoted q escaped)
  | raw (read : Text) : Alike .raw (.raw read)

theorem alike_ofCode {c : Char} (hc : c ≠ '/') :
    Alike (ScanState.code.next c) (Place.ofCode c) := by
  rw [ScanState.next, Place.ofCode, if_neg hc]
  by_cases hraw : c = '\x60'
  · subst hraw
    exact .raw []
  · rw [if_neg hraw]
    by_cases hquote : c = '"' ∨ c = '\''
    · rw [if_pos hquote, if_pos (by rcases hquote with rfl | rfl <;> rfl)]
      exact .quoted false hraw
    · rw [if_neg hquote, if_neg (by simp_all [isQuote])]
      exact .code

/-- A character inside a line, if it does not start a comment. -/
theorem Alike.next {s : ScanState} {p : Place} (h : Alike s p) {c : Char} (hnewline : c ≠ '\n')
    (hslash : p = .code → c ≠ '/') : Alike (s.next c) (p.next c) := by
  cases h with
  | code => exact alike_ofCode (hslash rfl)
  | @quoted q escaped hq =>
    rw [Place.next, if_neg hnewline]
    cases escaped with
    | true => exact .quoted false hq
    | false =>
      rw [if_neg Bool.false_ne_true, ScanState.next]
      by_cases hback : c = '\\'
      · rw [if_pos hback, if_pos ⟨hback, hq⟩]
        exact .quoted true hq
      · rw [if_neg hback, if_neg (fun h => hback h.1)]
        by_cases hend : c = q
        · rw [if_pos hend, if_pos hend]
          exact .code
        · rw [if_neg hend, if_neg hend]
          exact .quoted false hq
  | raw read =>
    rw [ScanState.raw, ScanState.next, if_neg (fun h => h.2 rfl), Place.next]
    by_cases hend : c = '\x60'
    · rw [if_pos hend, if_pos hend]
      exact .code
    · rw [if_neg hend, if_neg hend]
      split
      · exact .raw read
      · exact .raw _

theorem Alike.isRaw {s : ScanState} {p : Place} (h : Alike s p) : (s == .raw) = p.isRaw := by
  cases h with
  | code => rfl
  | quoted escaped hq =>
    exact beq_eq_false_iff_ne.2 fun h => hq (ScanState.literal.inj h).1
  | raw read => rfl

theorem run_lineComment {t : Text} (ht : '\n' ∉ t) : Place.lineComment.run t = .lineComment := by
  induction t with
  | nil => rfl
  | cons c t ih =>
    have hc : Place.lineComment.next c = .lineComment := by
      rw [Place.next, if_neg (List.ne_of_not_mem_cons ht).symm]
    show (Place.lineComment.next c).run t = _
    rw [hc, ih (List.not_mem_of_not_mem_cons ht)]

theorem atComment_eq_false {s : ScanState} {c : Char} {t : Text}
    (h : s = .code → c = '/' → t.head? ≠ some '/') : s.atComment (c :: t) = false := by
  rw [ScanState.atComment, Bool.and_eq_false_imp]
  intro hs
  have hcode : s = .code := beq_iff_eq.1 hs
  rw [Bool.eq_false_iff]
  intro hprefix
  have hslashes : ['/', '/'] <+: c :: t := List.isPrefixOf_iff_prefix.1 hprefix
  obtain ⟨hc, u, rfl⟩ := List.cons_prefix_cons.1 hslashes
  exact h hcode hc.symm rfl

/-- **The scan of a line goes along with the reader**, as long as no block comment is met.  Behind a
    slash the reader waits for what the scan has looked ahead to. -/
theorem endsInRaw_eq (t : Text) {s : ScanState} {p : Place} (ht : '\n' ∉ t)
    (havoids : p.avoidsBlockComments t = true)
    (h : Alike s p ∨ s = .code ∧ p = .slash ∧ t.head? ≠ some '/') :
    endsInRaw s t = (p.run t).isRaw := by
  induction t generalizing s p with
  | nil =>
    rcases h with h | ⟨rfl, rfl, _⟩
    · exact h.isRaw
    · rfl
  | cons c t ih =>
    have hnewline : c ≠ '\n' := (List.ne_of_not_mem_cons ht).symm
    have ht' : '\n' ∉ t := List.not_mem_of_not_mem_cons ht
    rw [Place.avoidsBlockComments, Bool.and_eq_true, Bool.not_eq_true'] at havoids
    obtain ⟨hnext, havoids⟩ := havoids
    show endsInRaw s (c :: t) = ((p.next c).run t).isRaw
    rw [endsInRaw]
    rcases h with h | ⟨rfl, rfl, hhead⟩
    · by_cases hslash : p = .code ∧ c = '/'
      · obtain ⟨rfl, rfl⟩ := hslash
        cases h
        by_cases hhead : t.head? = some '/'
        · -- a comment starts, and lasts to the end of the line
          obtain ⟨t, rfl⟩ : ∃ u, t = '/' :: u := by
            cases t with
            | nil => cases hhead
            | cons d u => exact ⟨u, by rw [Option.some.inj hhead]⟩
          have hrun : (Place.code.next '/').run ('/' :: t) = .lineComment :=
            run_lineComment (List.not_mem_of_not_mem_cons ht')
          rw [hrun, if_pos (show ScanState.code.atComment ('/' :: '/' :: t) = true from rfl)]
          rfl
        · rw [atComment_eq_false fun _ _ => hhead, if_neg Bool.false_ne_true]
          exact ih ht' havoids (.inr ⟨rfl, rfl, hhead⟩)
      · have hcode : s = .code → c ≠ '/' := by
          rintro rfl rfl
          cases h
          exact hslash ⟨rfl, rfl⟩
        rw [atComment_eq_false fun hs hc => absurd hc (hcode hs), if_neg Bool.false_ne_true]
        exact ih ht' havoids (.inl (h.next hnewline fun hp hc => hslash ⟨hp, hc⟩))
    · have hc : c ≠ '/' := fun hc => hhead (congrArg some hc)
      have hstar : c ≠ '*' := by
        rintro rfl
        cases hnext
      have hplace : Place.slash.next c = Place.ofCode c := by
        rw [Place.next, if_neg hc, if_neg hstar]
      rw [hplace] at havoids ⊢
      rw [atComment_eq_false fun _ h => absurd h hc, if_neg Bool.false_ne_true]
      exact ih ht' havoids (.inl (alike_ofCode hc))

/-! ## The scan of a body -/

/-- Whether a line ends inside a raw literal, if it begins in one or not. -/
def rawAfter (inRaw : Bool) (l : Text) : Bool := endsInRaw (if inRaw then .raw else .code) l

/-- Whether the line behind some lines is taken for one that begins inside a raw literal. -/
def rawBehind (inRaw : Bool) (front : List Text) : Bool := front.foldl rawAfter inRaw

/-- Without block comments a line is taken for what it is. -/
theorem rawBehind_eq {front : List Text} (hfront : ∀ l ∈ front, '\n' ∉ l) {p : Place}
    (hstart : p.StartsLine) (hp : p.inBlockComment = false)
    (havoids : p.avoidsBlockComments (unlines front) = true) :
    rawBehind p.isRaw front = (p.run (unlines front)).isRaw := by
  induction front generalizing p with
  | nil => rfl
  | cons l front ih =>
    rw [unlines_cons, p.avoidsBlockComments_append, Bool.and_eq_true] at havoids
    obtain ⟨hline, hrest⟩ := havoids
    have hl : '\n' ∉ l := hfront l List.mem_cons_self
    have hscan : rawAfter p.isRaw l = (p.run l).isRaw := by
      rw [p.avoidsBlockComments_append, Bool.and_eq_true] at hline
      refine endsInRaw_eq l hl hline.1 (.inl ?_)
      cases hstart with
      | code => exact .code
      | blockComment => cases hp
      | raw read => exact .raw read
    have hnext : p.run (l ++ ['\n']) = (p.run l).next '\n' := p.run_append l ['\n']
    have hraw : rawAfter p.isRaw l = (p.run (l ++ ['\n'])).isRaw := by
      rw [hscan, hnext, Place.isRaw_next]
    show rawBehind (rawAfter p.isRaw l) front = _
    rw [hraw, unlines_cons, p.run_append (l ++ ['\n'])]
    refine ih (fun m hm => hfront m (List.mem_cons_of_mem l hm)) ?_
      (Place.inBlockComment_run hp _ hline) hrest
    rw [hnext]
    exact Place.startsLine_next _

/-- Lines that continue a raw literal with an end are taken for such lines, if they have text. -/
def Heeded (inRaw : Bool) (p : Place) : List Text → Prop
  | [] => True
  | l :: rest => (p.isRaw = true → '\x60' ∈ (l :: rest).flatten → l ≠ [] → inRaw = true)
      ∧ Heeded (rawAfter inRaw l) (p.run (l ++ ['\n'])) rest

theorem heeded_iff (inRaw : Bool) (p : Place) (ls : List Text) :
    Heeded inRaw p ls ↔ ∀ front l rest, ls = front ++ l :: rest →
      (p.run (unlines front)).isRaw = true → '\x60' ∈ (l :: rest).flatten → l ≠ [] →
      rawBehind inRaw front = true := by
  induction ls generalizing inRaw p with
  | nil =>
    refine ⟨fun _ front l rest h => ?_, fun _ => trivial⟩
    cases front <;> cases h
  | cons m ls ih =>
    rw [Heeded, ih]
    constructor
    · rintro ⟨hm, hrest⟩ front l rest hls
      cases front with
      | nil =>
        obtain ⟨rfl, rfl⟩ := List.cons.inj hls
        exact hm
      | cons m' front =>
        obtain ⟨rfl, htail⟩ := List.cons.inj hls
        intro hraw
        rw [unlines_cons, p.run_append] at hraw
        exact hrest front l rest htail hraw
    · intro h
      refine ⟨h [] m ls rfl, fun front l rest hls hraw => ?_⟩
      refine h (m :: front) l rest (by rw [hls]; rfl) ?_
      rwa [unlines_cons, p.run_append]

/-! ## Tabs in literals -/

/-- A text as it counts in a raw literal. -/
def noReturns (t : Text) : Text := t.filter (· != '\r')

/-- A raw literal goes on over a text without a backtick. -/
theorem run_raw {a : Text} (ha : '\x60' ∉ a) (read : Text) :
    (Place.raw read).run a = .raw (read ++ noReturns a) ∧ rawLiterals (.raw read) a = [] := by
  induction a generalizing read with
  | nil => exact ⟨by rw [noReturns, List.filter_nil, List.append_nil]; rfl, rfl⟩
  | cons c a ih =>
    have hc : c ≠ '\x60' := (List.ne_of_not_mem_cons ha).symm
    have ha' : '\x60' ∉ a := List.not_mem_of_not_mem_cons ha
    have hcloses : (Place.raw read).closes c = [] := by rw [Place.closes, if_neg hc]
    show ((Place.raw read).next c).run a = _ ∧ _
    rw [rawLiterals, hcloses, Place.next, if_neg hc, List.nil_append]
    by_cases hreturn : c = '\r'
    · rw [if_pos hreturn, noReturns, List.filter_cons_of_neg (by simp [hreturn])]
      exact ih ha' read
    · rw [if_neg hreturn, noReturns, List.filter_cons_of_pos (by simp [hreturn])]
      obtain ⟨hrun, hnone⟩ := ih ha' (read ++ [c])
      exact ⟨by rw [hrun, List.append_assoc]; rfl, hnone⟩

/-- A backtick closes it. -/
theorem rawLiterals_raw {a : Text} (ha : '\x60' ∉ a) (read t : Text) :
    rawLiterals (.raw read) (a ++ '\x60' :: t) = (read ++ noReturns a) :: rawLiterals .code t := by
  obtain ⟨hrun, hnone⟩ := run_raw ha read
  rw [rawLiterals_append, hrun, hnone]
  rfl

/-- Whatever a literal has read before, the first backtick of a line closes it, and the rest of the
    line is code. -/
theorem exists_close {l : Text} (hl : '\x60' ∈ l) :
    ∃ a b : Text, (∀ read t, (Place.raw read).run (l ++ t) = Place.code.run (b ++ t))
      ∧ ∀ read front t, '\x60' ∉ front →
          rawLiterals (.raw read) (front ++ (l ++ t))
            = (read ++ noReturns (front ++ a)) :: rawLiterals .code (b ++ t) := by
  obtain ⟨a, b, rfl, ha⟩ := List.eq_append_cons_of_mem hl
  refine ⟨a, b, fun read t => ?_, fun read front t hfront => ?_⟩
  · rw [List.append_assoc, Place.run_append, (run_raw ha read).1]
    rfl
  · have hfront' : '\x60' ∉ front ++ a := by simp [hfront, ha]
    rw [List.append_assoc, ← List.append_assoc front, List.cons_append, rawLiterals_raw hfront']

/-- The reader of the indented body stands where the reader of the body stands, or in the same
    literal with tabs in it. -/
inductive Swollen : Place → Place → Prop
  | same (p : Place) : Swollen p p
  | tabs {r r' : Text} : r.length < r'.length → Swollen (.raw r) (.raw r')

/-- What indentation puts in front of a line. -/
def lead (inRaw : Bool) (l : Text) : Text := if inRaw || l.isEmpty then [] else ['\t']

theorem indentLines_cons (inRaw : Bool) (l : Text) (ls : List Text) :
    indentLines inRaw (l :: ls)
      = (lead inRaw l ++ (l ++ ['\n'])) ++ indentLines (rawAfter inRaw l) ls := by
  rw [indentLines, lead]
  split <;> simp [rawAfter]

theorem lead_eq (inRaw : Bool) (l : Text) : lead inRaw l = [] ∨ lead inRaw l = ['\t'] := by
  rw [lead]
  split
  · exact .inl rfl
  · exact .inr rfl

theorem lead_eq_nil_iff (inRaw : Bool) (l : Text) :
    lead inRaw l = [] ↔ (l ≠ [] → inRaw = true) := by
  cases inRaw <;> cases l <;> simp [lead]

/-- Outside raw literals a tab in front of a line does nothing. -/
theorem run_lead {p : Place} (hstart : p.StartsLine) (hraw : p.isRaw = false) (inRaw : Bool)
    (l : Text) : p.run (lead inRaw l) = p ∧ rawLiterals p (lead inRaw l) = [] := by
  rcases lead_eq inRaw l with h | h
  · rw [h]
    exact ⟨rfl, rfl⟩
  · rw [h]
    cases hstart with
    | code | blockComment => exact ⟨rfl, rfl⟩
    | raw read => cases hraw

theorem noReturns_lead (inRaw : Bool) (l a : Text) :
    noReturns (lead inRaw l ++ a) = lead inRaw l ++ noReturns a := by
  rcases lead_eq inRaw l with h | h
  · rw [h, List.nil_append, List.nil_append]
  · rw [h]
    rfl

/-- The value so far differs if a tab has come into it, now or before. -/
theorem read_eq_iff {r r' : Text} (h : Swollen (.raw r) (.raw r')) (inRaw : Bool) (l a : Text) :
    r ++ noReturns a = r' ++ noReturns (lead inRaw l ++ a)
      ↔ Place.raw r = .raw r' ∧ lead inRaw l = [] := by
  rw [noReturns_lead, Place.raw.injEq]
  rcases lead_eq inRaw l with hlead | hlead
  · rw [hlead, List.nil_append, List.append_left_inj]
    exact ⟨fun hr => ⟨hr, rfl⟩, fun hr => hr.1⟩
  · rw [hlead]
    refine ⟨fun hr => ?_, fun hr => nomatch hr.2⟩
    have hlength := congrArg List.length hr
    simp only [List.length_append, List.length_singleton] at hlength
    cases h with
    | same => omega
    | tabs hlt => omega

theorem Swollen.read {r r' : Text} (h : Swollen (.raw r) (.raw r')) (inRaw : Bool) (l a : Text) :
    Swollen (.raw (r ++ noReturns a)) (.raw (r' ++ noReturns (lead inRaw l ++ a))) := by
  rw [noReturns_lead]
  have hlength : ∀ {tabs : Text}, r.length < r'.length + tabs.length →
      Swollen (.raw (r ++ noReturns a)) (.raw (r' ++ (tabs ++ noReturns a))) := by
    intro tabs hlt
    refine .tabs ?_
    simp only [List.length_append]
    omega
  rcases lead_eq inRaw l with hlead | hlead
  · rw [hlead]
    cases h with
    | same => exact .same _
    | tabs hlt => exact hlength hlt
  · rw [hlead]
    refine hlength ?_
    cases h with
    | same => simp
    | tabs hlt => exact Nat.lt_succ_of_lt hlt

/-- **Indented lines have the same raw literals exactly if the lines that continue one are heeded**,
    and no tab has come before into a literal that is closed here. -/
theorem rawLiterals_indentLines_iff (ls : List Text) {inRaw : Bool} {p p' : Place}
    (hstart : p.StartsLine) (hp : Swollen p p') :
    rawLiterals p' (indentLines inRaw ls) = rawLiterals p (unlines ls)
      ↔ (p = p' ∨ '\x60' ∉ ls.flatten) ∧ Heeded inRaw p ls := by
  induction ls generalizing inRaw p p' with
  | nil => exact ⟨fun _ => ⟨.inr List.not_mem_nil, trivial⟩, fun _ => rfl⟩
  | cons l ls ih =>
    have hstart' : (p.run (l ++ ['\n'])).StartsLine := by
      rw [p.run_append]
      exact Place.startsLine_next _
    rw [indentLines_cons, unlines_cons, Heeded, ← lead_eq_nil_iff]
    cases hraw : p.isRaw with
    | false =>
      obtain rfl : p = p' := by
        cases hp with
        | same => rfl
        | tabs => cases hraw
      obtain ⟨hrun, hnone⟩ := run_lead hstart hraw inRaw l
      rw [List.append_assoc, rawLiterals_append p (lead inRaw l), hrun, hnone, List.nil_append,
        rawLiterals_append p (l ++ ['\n']), rawLiterals_append p (l ++ ['\n']),
        List.append_right_inj, ih hstart' (.same _)]
      simp
    | true =>
      obtain ⟨r, rfl⟩ : ∃ r, p = .raw r := by
        cases hstart with
        | code | blockComment => cases hraw
        | raw r => exact ⟨r, rfl⟩
      obtain ⟨r', rfl⟩ : ∃ r', p' = .raw r' := by
        cases hp with
        | same => exact ⟨r, rfl⟩
        | @tabs _ r' _ => exact ⟨r', rfl⟩
      have hlead : '\x60' ∉ lead inRaw l := by
        rcases lead_eq inRaw l with h | h <;> rw [h] <;> decide
      by_cases hl : '\x60' ∈ l
      · -- the literal is closed in this line, and the rest of the line is code on both sides
        have hmem : '\x60' ∈ (l :: ls).flatten := List.mem_append_left _ hl
        obtain ⟨a, b, hplace, hclose⟩ := exists_close hl
        have hbody := hclose r [] (['\n'] ++ unlines ls) List.not_mem_nil
        have hindented := hclose r' (lead inRaw l) (['\n'] ++ indentLines (rawAfter inRaw l) ls) hlead
        rw [List.nil_append, List.nil_append] at hbody
        rw [hplace] at hstart'
        rw [List.append_assoc, List.append_assoc, List.append_assoc, hbody, hindented, hplace,
          List.cons.injEq, ← List.append_assoc, ← List.append_assoc,
          rawLiterals_append .code (b ++ ['\n']), rawLiterals_append .code (b ++ ['\n']),
          List.append_right_inj, ih hstart' (.same _), eq_comm, read_eq_iff hp]
        tauto
      · have hl' : '\x60' ∉ l ++ ['\n'] := by simp [hl]
        obtain ⟨hrun, hnone⟩ := run_raw hl' r
        obtain ⟨hrun', hnone'⟩ := run_raw (a := lead inRaw l ++ (l ++ ['\n']))
          (by simp [hlead, hl]) r'
        have hmem : '\x60' ∈ (l :: ls).flatten ↔ '\x60' ∈ ls.flatten := by simp [hl]
        rw [hrun] at hstart'
        rw [rawLiterals_append (.raw r'), rawLiterals_append (.raw r), hnone, hnone', hrun, hrun',
          List.nil_append, List.nil_append, ih hstart' (hp.read inRaw l _), Place.raw.injEq,
          read_eq_iff hp, hmem]
        tauto

/-! ## Indentation -/

/-- Indented lines are the lines, some with a tab in front. -/
theorem lineSpans_indentLines {ls : List Text} (hls : ∀ l ∈ ls, '\n' ∉ l) (inRaw : Bool) :
    List.Forall₂ (fun l m => m = l ++ ['\n'] ∨ m = '\t' :: l ++ ['\n']) ls
      (lineSpans (indentLines inRaw ls)) := by
  induction ls generalizing inRaw with
  | nil => exact .nil
  | cons l ls ih =>
    have hl : '\n' ∉ lead inRaw l ++ l := by
      have hlead : '\n' ∉ lead inRaw l := by
        rcases lead_eq inRaw l with h | h <;> rw [h] <;> decide
      simp [hlead, hls l List.mem_cons_self]
    rw [indentLines_cons, ← List.append_assoc, List.append_assoc, List.singleton_append,
      lineSpans_append_newline hl]
    refine .cons ?_ (ih (fun m hm => hls m (List.mem_cons_of_mem l hm)) _)
    rcases lead_eq inRaw l with h | h
    · exact .inl (by rw [h]; rfl)
    · exact .inr (by rw [h]; rfl)

/-- **When indentation leaves the raw literals of a body alone.**  The lines of the indented body
    are those of the body, with or without a tab.  The values of the raw literals are the same
    exactly if every line with text that begins inside a raw literal, where the literal has an end,
    is taken for such a line.  That is always so in a body without block comments. -/
theorem rawLiterals_indentBody_iff (body : Text) :
    List.Forall₂ (fun l m => m = l ++ ['\n'] ∨ m = '\t' :: l ++ ['\n']) (lines body)
      (lineSpans (indentBody body))
    ∧ (rawLiterals .code (indentBody body) = rawLiterals .code body
        ↔ ∀ front l rest, lines body = front ++ l :: rest →
            (Place.code.run (unlines front)).isRaw = true → '\x60' ∈ (l :: rest).flatten → l ≠ [] →
            rawBehind false front = true)
    ∧ (Place.code.avoidsBlockComments body = true →
        rawLiterals .code (indentBody body) = rawLiterals .code body) := by
  have hlines := newline_not_mem_lines body
  have hiff : rawLiterals .code (indentBody body) = rawLiterals .code body
      ↔ Heeded false .code (lines body) := by
    rw [indentBody, ← rawLiterals_unlines_lines body,
      rawLiterals_indentLines_iff (lines body) .code (.same .code)]
    exact ⟨fun h => h.2, fun h => ⟨.inl rfl, h⟩⟩
  refine ⟨lineSpans_indentLines hlines false, hiff.trans (heeded_iff _ _ _), fun havoids => ?_⟩
  rw [hiff, heeded_iff]
  intro front l rest hsplit hraw _ _
  have hread : Place.code.avoidsBlockComments (unlines (lines body)) = true :=
    (unlines_chomp (spans_lineSpans body) .code).2 rfl (by rwa [flatten_lineSpans])
  rw [hsplit, unlines, List.flatMap_append, ← unlines, Place.avoidsBlockComments_append,
    Bool.and_eq_true] at hread
  have hfront : ∀ m ∈ front, '\n' ∉ m :=
    fun m hm => hlines m (hsplit ▸ List.mem_append_left _ hm)
  exact (rawBehind_eq hfront .code rfl hread.1).trans hraw

/-- A backtick in a block comment, and then a raw literal of two lines. -/
def commentedBody : Text := "/* ` */\ns := `a\nb`\n".toList

/-- The scan does not know block comments, so the literal gets a tab. -/
theorem block_comment_shifts_literal :
    rawLiterals .code commentedBody = ["a\nb".toList]
      ∧ rawLiterals .code (indentBody commentedBody) = ["a\n\tb".toList] := by
  decide +kernel

end GoTemplate.Go
