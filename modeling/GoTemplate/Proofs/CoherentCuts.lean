/-
  A line can be cut and scanned again.

  The reader of declarations cuts a line three times: in front of its comment, at its semicolons,
  and at the parenthesis that closes a group.  Each cut goes by a scan of its own, begun afresh on
  what the cut before has left.  Over the bytes of a line a cut is an OFFSET, and two things could
  go wrong: an offset inside a character, or a scan that takes for code what was in a literal.

  1. The stretches found over bytes are those of the texts that the reader cuts out
     (`commentStart?_eq`, `forall₂_cutAt_stretches`, `groupEnd?_eq`).
  2. In front of each of them the scan is in code, so a scan begun afresh there goes on as the first
     (`CutAt`).  That is all it takes to be a piece of the line: cut where characters begin, and
     with the same bytes of code.
  3. So it is with all that one step of the reader leaves of a statement (`cutFrom_of_step`), and by
     induction with every text that the reader comes to (`cutFrom_of_reaches`).
-/
import GoTemplate.Proofs.ByteScan

namespace GoTemplate

open Go

/-! ## The cuts over bytes -/

/-- Where a comment starts: at the first of two slashes next to each other that are code.  `prev`
    is the byte of code before. -/
def commentStart? (prev : Option (Nat × UInt8)) : List (Nat × UInt8) → Option Nat
  | [] => none
  | (i, b) :: later =>
    if b = '/'.toUInt8 ∧ 0 < i ∧ prev = some (i - 1, '/'.toUInt8) then some (i - 1)
    else commentStart? (some (i, b)) later

/-- The line up to its comment. -/
def commentFree (line : List UInt8) : Stretch :=
  ⟨0, (commentStart? none (codeBytes line)).getD line.length⟩

/-- The offsets of the semicolons. -/
def semicolons (ps : List (Nat × UInt8)) : List Nat :=
  (ps.filter fun p => p.2 == ';'.toUInt8).map Prod.fst

/-- The stretches between single bytes that are left out. -/
def stretches (start stop : Nat) : List Nat → List Stretch
  | [] => [⟨start, stop⟩]
  | i :: cuts => ⟨start, i⟩ :: stretches (i + 1) stop cuts

/-- The statements of a line. -/
def statementStretches (line : List UInt8) : List Stretch :=
  stretches 0 line.length (semicolons (codeBytes line))

/-- The bracket depth after a byte of code. -/
def byteDepth (depth : Nat) (b : UInt8) : Nat :=
  if b = '('.toUInt8 ∨ b = '['.toUInt8 ∨ b = '\x7b'.toUInt8 then depth + 1
  else if b = ')'.toUInt8 ∨ b = ']'.toUInt8 ∨ b = '\x7d'.toUInt8 then depth - 1
  else depth

/-- The offset of the parenthesis that closes a group. -/
def groupEnd? (depth : Nat) : List (Nat × UInt8) → Option Nat
  | [] => none
  | (i, b) :: later =>
    if b = ')'.toUInt8 ∧ depth = 0 then some i else groupEnd? (byteDepth depth b) later

/-- What stands before and after the parenthesis that closes a group. -/
def groupStretches (text : List UInt8) : Option (Stretch × Stretch) :=
  (groupEnd? 0 (codeBytes text)).map fun i => (⟨0, i⟩, ⟨i + 1, text.length⟩)

example : statementStretches (utf8 "é';';\"ß;\" ;".toList) = [⟨0, 5⟩, ⟨6, 12⟩, ⟨13, 13⟩] := by
  decide +kernel
example : groupStretches (utf8 "a(')') ü) b".toList) = some (⟨0, 9⟩, ⟨10, 12⟩) := by decide +kernel

/-! ## The comment -/

/-- Bytes that are no slashes are passed over. -/
theorem commentStart?_append {front : List (Nat × UInt8)} (h : ∀ p ∈ front, p.2 ≠ '/'.toUInt8)
    (prev : Option (Nat × UInt8)) (later : List (Nat × UInt8)) :
    ∃ prev', commentStart? prev (front ++ later) = commentStart? prev' later
      ∧ (prev' = prev ∨ ∃ p ∈ front, prev' = some p) := by
  induction front generalizing prev with
  | nil => exact ⟨prev, rfl, .inl rfl⟩
  | cons p front ih =>
    obtain ⟨hp, hfront⟩ := List.forall_mem_cons.1 h
    obtain ⟨prev', heq, hprev⟩ := ih hfront (some p)
    refine ⟨prev', ?_, .inr ?_⟩
    · obtain ⟨i, b⟩ := p
      rw [List.cons_append, commentStart?, if_neg fun hc => hp hc.1, heq]
    · rcases hprev with rfl | ⟨q, hq, rfl⟩
      · exact ⟨p, List.mem_cons_self, rfl⟩
      · exact ⟨q, List.mem_cons_of_mem p hq, rfl⟩

/-- What may have been read last where `t` begins: it lies before, and `t` does not make two slashes
    of it. -/
structure LastRead (prev : Option (Nat × UInt8)) (s : ScanState) (i : Nat) (t : Text) : Prop where
  before : ∀ p ∈ prev, p.1 < i
  single : s = .code → t.head? = some '/' → prev ≠ some (i - 1, '/'.toUInt8)

theorem eq_slashes_of_atComment {s : ScanState} {t : Text} (h : s.atComment t = true) :
    s = .code ∧ ∃ t', t = '/' :: '/' :: t' := by
  obtain ⟨hcode, hslashes⟩ := Bool.and_eq_true_iff.1 h
  obtain ⟨t', rfl⟩ := List.isPrefixOf_iff_prefix.1 hslashes
  exact ⟨eq_of_beq hcode, t', rfl⟩

/-- Of two slashes in code the second is noticed, and the comment starts at the first. -/
theorem commentStart?_slashes {prev : Option (Nat × UInt8)} {i : Nat} {t : Text}
    (h : LastRead prev .code i ('/' :: t)) :
    commentStart? prev (selected ScanState.code.onBytes i (utf8 ('/' :: '/' :: t))) = some i := by
  have hpass : ¬('/'.toUInt8 = '/'.toUInt8 ∧ 0 < i ∧ prev = some (i - 1, '/'.toUInt8)) :=
    fun hfound => h.single rfl rfl hfound.2.2
  have hslash : ScanState.code.next '/' = .code := rfl
  rw [selected_of_isCodeByte ScanState.opened_code (by decide), commentStart?, if_neg hpass, hslash,
    selected_of_isCodeByte ScanState.opened_code (by decide), commentStart?,
    if_pos ⟨rfl, Nat.succ_pos i, rfl⟩]
  rfl

/-- **One step** that starts no comment. -/
theorem commentStart?_cons {s : ScanState} (hs : s.Opened) {prev : Option (Nat × UInt8)} {i : Nat}
    {c : Char} {t : Text} (h : LastRead prev s i (c :: t))
    (hcomment : s.atComment (c :: t) = false) :
    ∃ prev', LastRead prev' (s.next c) (i + (String.utf8EncodeChar c).length) t
      ∧ commentStart? prev (selected s.onBytes i (utf8 (c :: t))) = commentStart? prev'
        (selected (s.next c).onBytes (i + (String.utf8EncodeChar c).length) (utf8 t)) := by
  by_cases hbyte : s.isCodeByte c = true
  · obtain ⟨rfl, -, hlt⟩ := (isCodeByte_iff s c).1 hbyte
    have hpass : ¬(c.toUInt8 = '/'.toUInt8 ∧ 0 < i ∧ prev = some (i - 1, '/'.toUInt8)) := by
      rintro ⟨hc, -, hadjacent⟩
      rw [toUInt8_eq_iff hlt (by decide)] at hc
      exact h.single rfl (congrArg some hc) hadjacent
    refine ⟨some (i, c.toUInt8), ⟨?_, ?_⟩, ?_⟩
    · rintro p ⟨⟩
      exact Nat.lt_add_of_pos_right (List.length_pos_of_ne_nil (encode_ne_nil c))
    · intro _ hhead heq
      have hc : c = '/' := by
        rw [Option.some.injEq, Prod.mk.injEq] at heq
        exact (toUInt8_eq_iff hlt (by decide)).1 heq.2
      obtain ⟨t', rfl⟩ := List.head?_eq_some_iff.1 hhead
      subst hc
      exact Bool.false_ne_true hcomment.symm
    · rw [selected_of_isCodeByte hs hbyte, commentStart?, if_neg hpass, length_encode_of_lt hlt]
  · obtain ⟨front, hselected, hfront⟩ := exists_selected_front hs (eq_false_of_ne_true hbyte) i t
    have hpos := List.length_pos_of_ne_nil (encode_ne_nil c)
    obtain ⟨prev', heq, hprev'⟩ := commentStart?_append
      (fun p hp => ne_toUInt8_of_le (hfront p hp).2 (by decide)) prev
      (selected (s.next c).onBytes (i + (String.utf8EncodeChar c).length) (utf8 t))
    refine ⟨prev', ⟨?_, ?_⟩, hselected ▸ heq⟩
    · intro p hp
      rcases hprev' with rfl | ⟨q, hq, rfl⟩
      · have := h.before p hp
        omega
      · cases hp
        exact (hfront _ hq).1
    · -- a byte from before the character is too far away, and its own bytes are no slashes
      intro _ _ hadjacent
      rcases hprev' with rfl | ⟨q, hq, rfl⟩
      · have hbefore : i + (String.utf8EncodeChar c).length - 1 < i := h.before _ hadjacent
        omega
      · obtain rfl := Option.some.inj hadjacent
        exact ne_toUInt8_of_le (hfront _ hq).2 (by decide) rfl

/-- **The comment starts where the line without it ends.** -/
theorem commentStart?_eq {s : ScanState} (hs : s.Opened) {prev : Option (Nat × UInt8)} {i : Nat}
    {t : Text} (h : LastRead prev s i t) :
    commentStart? prev (selected s.onBytes i (utf8 t))
      = if dropComment s t = t then none else some (i + (utf8 (dropComment s t)).length) := by
  induction t generalizing s i prev with
  | nil => rfl
  | cons c t ih =>
    cases hcomment : s.atComment (c :: t) with
    | true =>
      have hnone : dropComment s (c :: t) = [] := if_pos hcomment
      obtain ⟨rfl, t', ht'⟩ := eq_slashes_of_atComment hcomment
      obtain ⟨rfl, rfl⟩ := List.cons.inj ht'
      have hfirst : LastRead prev .code i ('/' :: t') := ⟨h.before, fun _ _ => h.single rfl rfl⟩
      rw [hnone, if_neg (List.cons_ne_nil _ _).symm, commentStart?_slashes hfirst]
      rfl
    | false =>
      have hkeep : dropComment s (c :: t) = c :: dropComment (s.next c) t := by
        rw [dropComment, hcomment, if_neg Bool.false_ne_true]
      obtain ⟨prev', hlast, heq⟩ := commentStart?_cons hs h hcomment
      rw [heq, ih (hs.next c) hlast, hkeep, utf8_cons, List.length_append]
      simp only [List.cons.injEq, true_and, Nat.add_assoc]

theorem dropComment_isPrefix (s : ScanState) (t : Text) : dropComment s t <+: t := by
  induction t generalizing s with
  | nil => exact List.prefix_rfl
  | cons c t ih =>
    rw [dropComment]
    split
    · exact List.nil_prefix
    · exact List.cons_prefix_cons.2 ⟨rfl, ih (s.next c)⟩

/-- Without its comment a line has none. -/
theorem dropComment_dropComment (s : ScanState) (t : Text) :
    dropComment s (dropComment s t) = dropComment s t := by
  induction t generalizing s with
  | nil => rfl
  | cons c t ih =>
    rw [dropComment]
    split
    · rfl
    · next hcomment =>
      -- two slashes would be the first two characters of the line as well
      have hnone : ¬s.atComment (c :: dropComment (s.next c) t) = true := by
        intro h
        obtain ⟨hcode, hslashes⟩ := Bool.and_eq_true_iff.1 h
        refine hcomment (Bool.and_eq_true_iff.2 ⟨hcode, ?_⟩)
        rw [List.isPrefixOf_iff_prefix] at hslashes ⊢
        exact hslashes.trans (List.cons_prefix_cons.2 ⟨rfl, dropComment_isPrefix _ t⟩)
      rw [dropComment, if_neg hnone, ih]

/-- Where no comment is found, no two slashes of code are next to each other. -/
theorem no_slashes_of_commentStart? {s : ByteState} {i : Nat} {bytes : List UInt8}
    {prev : Option (Nat × UInt8)} (h : commentStart? prev (selected s i bytes) = none) :
    (∀ k, (k, '/'.toUInt8) ∈ selected s i bytes → (k + 1, '/'.toUInt8) ∉ selected s i bytes)
    ∧ (0 < i → prev = some (i - 1, '/'.toUInt8) → (i, '/'.toUInt8) ∉ selected s i bytes) := by
  induction bytes generalizing s i prev with
  | nil => exact ⟨fun k hk => absurd hk List.not_mem_nil, fun _ _ => List.not_mem_nil⟩
  | cons b bytes ih =>
    have hbehind : ∀ {x : UInt8} {j : Nat}, j ≤ i → (j, x) ∉ selected (s.next b) (i + 1) bytes := by
      intro x j hj hmem
      have : i + 1 ≤ j := (offset_of_mem_selected hmem).1
      omega
    rw [selected] at h ⊢
    split at h
    · next hselects =>
      rw [if_pos hselects]
      rw [commentStart?] at h
      split at h
      · cases h
      · next hpass =>
        obtain ⟨hpairs, hnext⟩ := ih h
        refine ⟨fun k hk hk' => ?_, fun hi hprev hmem => ?_⟩
        · rcases List.mem_cons.1 hk' with heq | hk'
          · -- the second slash would be the first byte, and nothing stands before it
            obtain ⟨rfl, -⟩ := Prod.mk.inj heq
            rcases List.mem_cons.1 hk with heq | hk
            · have := (Prod.mk.inj heq).1
              omega
            · exact hbehind (Nat.le_succ k) hk
          · rcases List.mem_cons.1 hk with heq | hk
            · obtain ⟨rfl, rfl⟩ := Prod.mk.inj heq
              exact hnext (Nat.succ_pos k) rfl hk'
            · exact hpairs k hk hk'
        · rcases List.mem_cons.1 hmem with heq | hmem
          · exact hpass ⟨(Prod.mk.inj heq).2.symm, hi, hprev⟩
          · exact hbehind (Nat.le_refl i) hmem
    · next hselects =>
      rw [if_neg hselects]
      exact ⟨(ih h).1, fun _ _ => hbehind (Nat.le_refl i)⟩

/-! ## Statements -/

theorem length_stretches (start stop : Nat) (cuts : List Nat) :
    (stretches start stop cuts).length = cuts.length + 1 := by
  induction cuts generalizing start with
  | nil => rfl
  | cons i cuts ih => rw [stretches, List.length_cons, ih, List.length_cons]

theorem semicolons_append (ps qs : List (Nat × UInt8)) :
    semicolons (ps ++ qs) = semicolons ps ++ semicolons qs := by
  rw [semicolons, List.filter_append, List.map_append]
  rfl

/-- A character adds its offset if it is a semicolon in code. -/
theorem semicolons_cons {s : ScanState} (hs : s.Opened) (i : Nat) (c : Char) (t : Text) :
    semicolons (selected s.onBytes i (utf8 (c :: t)))
      = (if s = .code ∧ c = ';' then [i] else [])
        ++ semicolons (selected (s.next c).onBytes (i + (String.utf8EncodeChar c).length)
          (utf8 t)) := by
  by_cases hbyte : s.isCodeByte c = true
  · obtain ⟨rfl, hquote, hlt⟩ := (isCodeByte_iff s c).1 hbyte
    have hsingle : semicolons [(i, c.toUInt8)]
        = if ScanState.code = .code ∧ c = ';' then [i] else [] := by
      by_cases hc : c = ';'
      · rw [if_pos ⟨rfl, hc⟩, hc]
        rfl
      · have hbeq : (c.toUInt8 == ';'.toUInt8) = false :=
          beq_false_of_ne fun h => hc ((toUInt8_eq_iff hlt (by decide)).1 h)
        rw [if_neg fun h => hc h.2, semicolons, List.filter_singleton, hbeq]
        rfl
    rw [selected_of_isCodeByte hs hbyte, length_encode_of_lt hlt, ← List.singleton_append,
      semicolons_append, hsingle]
  · have hcut : ¬(s = .code ∧ c = ';') := by
      rintro ⟨rfl, rfl⟩
      exact hbyte (by decide)
    obtain ⟨front, hselected, hfront⟩ :=
      exists_selected_front hs (eq_false_of_ne_true hbyte) i t
    have hnone : semicolons front = [] := by
      rw [semicolons, List.map_eq_nil_iff, List.filter_eq_nil_iff]
      intro p hp heq
      exact ne_toUInt8_of_le (hfront p hp).2 (by decide) (eq_of_beq heq)
    rw [hselected, semicolons_append, hnone, if_neg hcut]

/-- **The stretches between the semicolons are the statements.**  `lead` is what has been cut off,
    and `read` the part of the statement that has been read. -/
theorem forall₂_cutAt_stretches {t p : Text} {ps : List Text} (lead read : Text)
    (hlead : ScanState.code.run lead = .code)
    (h : splitStatements (ScanState.code.run read) t = p :: ps) :
    List.Forall₂ (CutAt (lead ++ (read ++ t)))
      (stretches (utf8 lead).length (utf8 (lead ++ (read ++ t))).length
        (semicolons (selected (ScanState.code.run read).onBytes (utf8 (lead ++ read)).length
          (utf8 t))))
      ((read ++ p) :: ps) := by
  induction t generalizing p ps lead read with
  | nil =>
    cases h
    have hpiece := cutAt_append lead hlead read []
    rw [List.append_nil] at hpiece ⊢
    exact .cons hpiece .nil
  | cons c t ih =>
    have hoffset : (utf8 (lead ++ (read ++ [c]))).length
        = (utf8 (lead ++ read)).length + (String.utf8EncodeChar c).length := by
      rw [← List.append_assoc, length_utf8_concat]
    rw [splitStatements] at h
    rw [semicolons_cons (ScanState.opened_code.run read)]
    split at h
    · next hcut =>
      obtain ⟨hcode, rfl⟩ := hcut
      obtain ⟨rfl, rfl⟩ := List.cons.inj h
      obtain ⟨q, qs, hq⟩ := List.exists_cons_of_ne_nil (splitStatements_ne_nil .code t)
      have hbehind : ScanState.code.run (lead ++ (read ++ [';'])) = .code := by
        rw [ScanState.run_append, hlead, ScanState.run_append, hcode]
        rfl
      have hline : lead ++ (read ++ ';' :: t) = (lead ++ (read ++ [';'])) ++ ([] ++ t) := by simp
      have hlater := ih _ [] hbehind hq
      rw [← hline, List.append_nil, hoffset] at hlater
      rw [if_pos ⟨hcode, rfl⟩, hcode, List.append_nil, List.singleton_append, stretches, hq]
      exact .cons (cutAt_append lead hlead read (';' :: t)) hlater
    · next hcut =>
      obtain ⟨q, qs, hq⟩ :=
        List.exists_cons_of_ne_nil (splitStatements_ne_nil ((ScanState.code.run read).next c) t)
      rw [hq] at h
      obtain ⟨rfl, rfl⟩ := List.cons.inj h
      have hrun : ScanState.code.run (read ++ [c]) = (ScanState.code.run read).next c :=
        ScanState.run_append .code read [c]
      have hlater := ih lead (read ++ [c]) hlead (by rw [hrun]; exact hq)
      rw [hrun, hoffset, List.append_assoc, List.append_assoc] at hlater
      rw [if_neg hcut]
      exact hlater

/-- A statement is cut no further. -/
theorem splitStatements_of_mem {s : ScanState} {t p : Text} {ps : List Text}
    (h : splitStatements s t = p :: ps) :
    splitStatements s p = [p] ∧ ∀ q ∈ ps, splitStatements .code q = [q] := by
  induction t generalizing s p ps with
  | nil =>
    cases h
    exact ⟨rfl, List.forall_mem_nil _⟩
  | cons c t ih =>
    rw [splitStatements] at h
    split at h
    · next hcut =>
      obtain ⟨rfl, rfl⟩ := List.cons.inj h
      obtain ⟨q, qs, hq⟩ := List.exists_cons_of_ne_nil (splitStatements_ne_nil .code t)
      rw [hq]
      exact ⟨rfl, List.forall_mem_cons.2 (ih hq)⟩
    · next hcut =>
      obtain ⟨q, qs, hq⟩ := List.exists_cons_of_ne_nil (splitStatements_ne_nil (s.next c) t)
      rw [hq] at h
      obtain ⟨rfl, rfl⟩ := List.cons.inj h
      obtain ⟨hfirst, hlater⟩ := ih hq
      refine ⟨?_, hlater⟩
      rw [splitStatements, if_neg hcut, hfirst]

theorem forall₂_cutAt_statements (line : Text) :
    List.Forall₂ (CutAt line) (statementStretches (utf8 line)) (splitStatements .code line) := by
  obtain ⟨p, ps, hp⟩ := List.exists_cons_of_ne_nil (splitStatements_ne_nil .code line)
  rw [hp]
  exact forall₂_cutAt_stretches [] [] rfl hp

/-- No semicolon of code is left in a statement: cut again, it has one stretch. -/
theorem no_semicolon_of_mem {line stmt : Text} (h : stmt ∈ splitStatements .code line) :
    ∀ p ∈ codeBytes (utf8 stmt), p.2 ≠ ';'.toUInt8 := by
  have hself : splitStatements .code stmt = [stmt] := by
    obtain ⟨q, qs, hq⟩ := List.exists_cons_of_ne_nil (splitStatements_ne_nil .code line)
    obtain ⟨hfirst, hlater⟩ := splitStatements_of_mem hq
    rw [hq] at h
    rcases List.mem_cons.1 h with rfl | h
    · exact hfirst
    · exact hlater stmt h
  have hone := (forall₂_cutAt_statements stmt).length_eq
  rw [hself, statementStretches, length_stretches] at hone
  have hnone : semicolons (codeBytes (utf8 stmt)) = [] :=
    List.eq_nil_of_length_eq_zero (Nat.succ.inj hone)
  rw [semicolons, List.map_eq_nil_iff, List.filter_eq_nil_iff] at hnone
  intro p hp heq
  exact hnone p hp (beq_iff_eq.2 heq)

/-! ## Groups -/

theorem byteDepth_toUInt8 {c : Char} (hc : c.toNat < 0x80) (depth : Nat) :
    byteDepth depth c.toUInt8 = bracketDepth depth c := by
  have hiff : ∀ {d : Char}, d.toNat < 0x80 → (c.toUInt8 = d.toUInt8 ↔ c = d) := toUInt8_eq_iff hc
  simp only [byteDepth, bracketDepth, hiff (d := '(') (by decide), hiff (d := '[') (by decide),
    hiff (d := '\x7b') (by decide), hiff (d := ')') (by decide), hiff (d := ']') (by decide),
    hiff (d := '\x7d') (by decide)]

theorem byteDepth_of_le {b : UInt8} (hb : 0x80 ≤ b.toNat) (depth : Nat) :
    byteDepth depth b = depth := by
  rw [byteDepth, if_neg, if_neg]
  · rintro (h | h | h) <;> exact ne_toUInt8_of_le hb (by decide) h
  · rintro (h | h | h) <;> exact ne_toUInt8_of_le hb (by decide) h

/-- Brackets are single bytes, so no other character changes the depth. -/
theorem bracketDepth_of_not_isCodeByte {c : Char} (hc : ScanState.code.isCodeByte c = false)
    (depth : Nat) : bracketDepth depth c = depth := by
  have hplain : ∀ {d : Char}, ScanState.code.isCodeByte d = true → c ≠ d := by
    rintro d hd rfl
    rw [hd] at hc
    cases hc
  rw [bracketDepth, if_neg, if_neg]
  · rintro (h | h | h) <;> exact hplain (by decide) h
  · rintro (h | h | h) <;> exact hplain (by decide) h

/-- Bytes beyond ASCII are passed over. -/
theorem groupEnd?_append {front : List (Nat × UInt8)} (h : ∀ p ∈ front, 0x80 ≤ p.2.toNat)
    (depth : Nat) (later : List (Nat × UInt8)) :
    groupEnd? depth (front ++ later) = groupEnd? depth later := by
  induction front with
  | nil => rfl
  | cons p front ih =>
    obtain ⟨hp, hfront⟩ := List.forall_mem_cons.1 h
    rw [List.cons_append, groupEnd?, if_neg fun hc => ne_toUInt8_of_le hp (by decide) hc.1,
      byteDepth_of_le hp, ih hfront]

/-- **One step** to the end of a group. -/
theorem groupEnd?_cons {s : ScanState} (hs : s.Opened) (depth i : Nat) (c : Char) (t : Text) :
    groupEnd? depth (selected s.onBytes i (utf8 (c :: t)))
      = if s = .code ∧ c = ')' ∧ depth = 0 then some i
        else groupEnd? (if s = .code then bracketDepth depth c else depth)
          (selected (s.next c).onBytes (i + (String.utf8EncodeChar c).length) (utf8 t)) := by
  by_cases hbyte : s.isCodeByte c = true
  · obtain ⟨rfl, -, hlt⟩ := (isCodeByte_iff s c).1 hbyte
    simp only [selected_of_isCodeByte hs hbyte, groupEnd?, byteDepth_toUInt8 hlt,
      length_encode_of_lt hlt, toUInt8_eq_iff hlt (d := ')') (by decide), true_and, if_true]
  · have hend : ¬(s = .code ∧ c = ')' ∧ depth = 0) := by
      rintro ⟨rfl, rfl, -⟩
      exact hbyte (by decide)
    have hdepth : (if s = .code then bracketDepth depth c else depth) = depth := by
      split
      · next hcode =>
        subst hcode
        exact bracketDepth_of_not_isCodeByte (eq_false_of_ne_true hbyte) depth
      · rfl
    obtain ⟨front, hselected, hfront⟩ := exists_selected_front hs (eq_false_of_ne_true hbyte) i t
    rw [hselected, groupEnd?_append fun p hp => (hfront p hp).2, if_neg hend, hdepth]

/-- **The group ends over bytes where it does over characters.** -/
theorem groupEnd?_eq {s : ScanState} (hs : s.Opened) (depth i : Nat) (t : Text) :
    groupEnd? depth (selected s.onBytes i (utf8 t))
      = (groupClose? s depth t).map fun p => i + (utf8 p.1).length := by
  induction t generalizing s depth i with
  | nil => rfl
  | cons c t ih =>
    rw [groupEnd?_cons hs, groupClose?]
    split
    · rfl
    · rw [ih (hs.next c), Option.map_map]
      congr 1
      funext p
      show _ = i + (utf8 (c :: p.1)).length
      rw [utf8_cons, List.length_append, Nat.add_assoc]

/-- The two stretches of a group are what stands before and after its closing parenthesis. -/
theorem cutAt_group (text : Text) :
    Option.Rel (fun r p => CutAt text r.1 p.1 ∧ CutAt text r.2 p.2)
      (groupStretches (utf8 text)) (groupClose? .code 0 text) := by
  have hend : groupEnd? 0 (codeBytes (utf8 text)) = _ :=
    groupEnd?_eq ScanState.opened_code 0 0 text
  rw [groupStretches, hend]
  cases hclose : groupClose? .code 0 text with
  | none => exact .none
  | some p =>
    obtain ⟨front, rest⟩ := p
    obtain ⟨rfl, hrun⟩ := groupClose?_eq hclose
    have hbehind : ScanState.code.run (front ++ [')']) = .code := by
      rw [ScanState.run_append, hrun]
      rfl
    have hline : front ++ ')' :: rest = (front ++ [')']) ++ (rest ++ []) := by simp
    have hrest := cutAt_append _ hbehind rest []
    rw [← hline, length_utf8_concat, List.append_assoc, List.singleton_append] at hrest
    simp only [Option.map_some, Nat.zero_add]
    exact .some ⟨cutAt_append [] rfl front (')' :: rest), hrest⟩

/-! ## All that the reader comes to -/

/-- A text that stands in a line, with the scan in code in front of it. -/
def CutFrom (line piece : Text) : Prop := ∃ r, CutAt line r piece

namespace CutFrom

theorem of_append {lead : Text} (h : ScanState.code.run lead = .code) (t : Text) :
    CutFrom (lead ++ t) t := by
  have hcut := cutAt_append lead h t []
  rw [List.append_nil] at hcut
  exact ⟨_, hcut⟩

theorem of_isPrefix {t u : Text} (h : u <+: t) : CutFrom t u := by
  obtain ⟨tail, rfl⟩ := h
  exact ⟨_, cutAt_append [] rfl u tail⟩

theorem refl (t : Text) : CutFrom t t := of_isPrefix List.prefix_rfl

theorem nil (t : Text) : CutFrom t [] := of_isPrefix List.nil_prefix

/-- What is cut from a piece is cut from the line. -/
theorem trans {t u v : Text} (h : CutFrom t u) (h' : CutFrom u v) : CutFrom t v := by
  obtain ⟨_, lead, tail, rfl, hlead, -⟩ := h
  obtain ⟨_, lead', tail', rfl, hlead', -⟩ := h'
  refine ⟨_, lead ++ lead', tail' ++ tail, by simp, ?_, rfl⟩
  rw [ScanState.run_append, hlead, hlead']

theorem trimStart (t : Text) : CutFrom t (trimStart t) := by
  have hblank : Unquoted (t.takeWhile isBlank) :=
    unquoted_of_blank fun c hc => List.mem_takeWhile_imp hc
  have hcut := of_append hblank.run (t.dropWhile isBlank)
  rwa [List.takeWhile_append_dropWhile] at hcut

theorem trim (t : Text) : CutFrom t (trim t) := by
  have hend : trimEnd (GoTemplate.trimStart t) <+: GoTemplate.trimStart t := by
    rw [trimEnd, dropEndWhile, ← List.reverse_suffix, List.reverse_reverse]
    exact List.dropWhile_suffix isBlank
  exact (trimStart t).trans (of_isPrefix hend)

theorem of_keywordRest? {word stmt rest : Text} (hword : Unquoted word)
    (h : keywordRest? word stmt = some rest) : CutFrom stmt rest := by
  rw [keywordRest?] at h
  split at h
  · cases h
  · cases h
  · next c t hafter =>
    have hbehind : CutFrom stmt (c :: t) := by
      rw [eq_append_of_after? hafter]
      exact of_append hword.run (c :: t)
    split at h
    · cases h
      exact hbehind
    · split at h
      · next hblank =>
        cases h
        have hc : Unquoted [c] := unquoted_of_blank (by simpa using hblank)
        exact (hbehind.trans (of_append hc.run t)).trans (trimStart t)
      · cases h

/-- What stands behind a parenthesis in code. -/
theorem of_group {t inner : Text} {paren : Char} (hparen : isQuote paren = false)
    (h : CutFrom t (paren :: inner)) : CutFrom t (GoTemplate.trim inner) := by
  have hlead : Unquoted [paren] := by
    intro c hc
    rw [List.mem_singleton.1 hc]
    exact hparen
  exact (h.trans (of_append hlead.run inner)).trans (trim inner)

theorem of_cutKeyword (g : Group) {t rest : Text} (h : CutFrom t rest) :
    CutFrom t (g.cutKeyword rest).rest := by
  rw [Group.cutKeyword]
  split
  · next inner hinner =>
    rw [eq_append_of_after? hinner] at h
    exact h.of_group (by decide)
  · exact nil t

end CutFrom

/-- **One step** leaves a text that is cut from the statement. -/
theorem cutFrom_of_step {r r' : Reading} {stmt rest : Text} (h : r.step stmt = some (r', rest)) :
    CutFrom stmt rest := by
  rw [Reading.step_eq] at h
  obtain ⟨ds, -, he⟩ := Option.map_eq_some_iff.1 h
  obtain rfl : (cutStep r.group stmt).rest = rest := (Prod.mk.inj he).2
  cases r.group with
  | none =>
    rw [cutStep, cutOutside]
    split
    · next rest hrest =>
      exact (CutFrom.of_keywordRest? (unquoted_of_all (by decide)) hrest).of_cutKeyword .imports
    · split
      · next rest hrest =>
        exact (CutFrom.of_keywordRest? (unquoted_of_all (by decide)) hrest).of_cutKeyword .vars
      · split
        · exact .nil stmt
        · exact .nil stmt
  | some g =>
    rw [cutStep, Group.cutInside]
    split
    · next spec rest hclose =>
      obtain ⟨rfl, hrun⟩ := groupClose?_eq hclose
      exact (CutFrom.of_append hrun (')' :: rest)).of_group (by decide)
    · exact .nil stmt

/-- The states and texts that the reader comes to, step after step, from a state and a statement. -/
inductive Reading.Reaches (r : Reading) (stmt : Text) : Reading → Text → Prop
  | start : Reaches r stmt r stmt
  | step {r' r'' : Reading} {rest rest' : Text} (h : Reaches r stmt r' rest)
      (hstep : r'.step rest = some (r'', rest')) : Reaches r stmt r'' rest'

/-- **A whole run** meets only texts that are cut from the statement. -/
theorem cutFrom_of_reaches {r r' : Reading} {stmt rest : Text} (h : r.Reaches stmt r' rest) :
    CutFrom stmt rest := by
  induction h with
  | start => exact .refl stmt
  | step _ hstep ih => exact ih.trans (cutFrom_of_step hstep)

/-! ## Lines -/

theorem commentStart?_codeBytes (line : Text) :
    commentStart? none (codeBytes (utf8 line)) = if dropComment .code line = line then none
      else some (utf8 (dropComment .code line)).length := by
  have hfresh : LastRead none .code 0 line := by
    refine ⟨fun p hp => ?_, fun _ _ h => ?_⟩
    · cases hp
    · cases h
  have hstart := commentStart?_eq ScanState.opened_code hfresh
  rwa [Nat.zero_add] at hstart

theorem cutAt_commentFree (line : Text) :
    CutAt line (commentFree (utf8 line)) (dropComment .code line) := by
  have hstop : (commentStart? none (codeBytes (utf8 line))).getD (utf8 line).length
      = (utf8 (dropComment .code line)).length := by
    rw [commentStart?_codeBytes]
    split
    · next hself => rw [hself]; rfl
    · rfl
  obtain ⟨tail, htail⟩ := dropComment_isPrefix .code line
  have hcut := cutAt_append [] rfl (dropComment .code line) tail
  rw [List.nil_append, htail] at hcut
  rw [commentFree, hstop]
  exact hcut

theorem no_slashes_dropComment (line : Text) (i : Nat)
    (h : (i, '/'.toUInt8) ∈ codeBytes (utf8 (dropComment .code line))) :
    (i + 1, '/'.toUInt8) ∉ codeBytes (utf8 (dropComment .code line)) := by
  have hnone : commentStart? none (codeBytes (utf8 (dropComment .code line))) = none := by
    rw [commentStart?_codeBytes, if_pos (dropComment_dropComment .code line)]
  exact (no_slashes_of_commentStart? hnone).1 i h

/-- A statement is cut from its line. -/
theorem cutFrom_of_mem_statements {line stmt : Text} (h : stmt ∈ statements line) :
    CutFrom line stmt := by
  have hall : ∀ {t : Text} {rs : List Stretch} {ps : List Text}, List.Forall₂ (CutAt t) rs ps →
      ∀ p ∈ ps, CutFrom t p := by
    intro t rs ps hcuts
    induction hcuts with
    | nil => exact List.forall_mem_nil _
    | cons hcut _ ih => exact List.forall_mem_cons.2 ⟨⟨_, hcut⟩, ih⟩
  have hstmt := hall (forall₂_cutAt_statements (dropComment .code line)) stmt h
  exact CutFrom.trans ⟨_, cutAt_commentFree line⟩ hstmt

/-- **Cuts are safe, and scans on both sides of them agree.**  In front of the comment, between the
    semicolons and on both sides of the parenthesis that closes a group, what is cut out of the
    bytes of a line is a piece of it and has the characters that the reader cuts out.  No two
    slashes of code are left next to each other in front of the comment, and no semicolon of code in
    a statement.  Every text that the reader comes to in a statement is a piece of the line. -/
theorem cuts_coherent (line : Text) :
    IsPiece (utf8 line) (commentFree (utf8 line)) (utf8 (dropComment .code line))
    ∧ List.Forall₂ (fun r stmt => IsPiece (utf8 line) r (utf8 stmt))
        (statementStretches (utf8 line)) (splitStatements .code line)
    ∧ Option.Rel
        (fun r p => IsPiece (utf8 line) r.1 (utf8 p.1) ∧ IsPiece (utf8 line) r.2 (utf8 p.2))
        (groupStretches (utf8 line)) (groupClose? .code 0 line)
    ∧ (∀ i, (i, '/'.toUInt8) ∈ codeBytes (utf8 (dropComment .code line)) →
        (i + 1, '/'.toUInt8) ∉ codeBytes (utf8 (dropComment .code line)))
    ∧ (∀ stmt ∈ splitStatements .code line, ∀ p ∈ codeBytes (utf8 stmt), p.2 ≠ ';'.toUInt8)
    ∧ ∀ stmt ∈ statements line, ∀ r r' rest, Reading.Reaches r (trim stmt) r' rest →
        ∃ place, IsPiece (utf8 line) place (utf8 rest) := by
  have hgroup : Option.Rel
      (fun r p => IsPiece (utf8 line) r.1 (utf8 p.1) ∧ IsPiece (utf8 line) r.2 (utf8 p.2))
      (groupStretches (utf8 line)) (groupClose? .code 0 line) := by
    have hcuts := cutAt_group line
    generalize groupStretches (utf8 line) = rs, groupClose? .code 0 line = ps at hcuts
    cases hcuts with
    | none => exact .none
    | some h => exact .some ⟨h.1.isPiece, h.2.isPiece⟩
  refine ⟨(cutAt_commentFree line).isPiece,
    (forall₂_cutAt_statements line).imp fun _ _ h => h.isPiece, hgroup,
    no_slashes_dropComment line, fun stmt => no_semicolon_of_mem, ?_⟩
  intro stmt hstmt r r' rest hreaches
  have hline := (cutFrom_of_mem_statements hstmt).trans (.trim stmt)
  obtain ⟨place, hcut⟩ := hline.trans (cutFrom_of_reaches hreaches)
  exact ⟨place, hcut.isPiece⟩

end GoTemplate
