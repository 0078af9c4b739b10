/-
  Interpreted string literals of Go: the reader beside the writer `Go.quote`.

  `interpreted?` reads one literal off the start of a text, by the rules of the language:

  * a backslash starts an escape: one of nine letters and marks, two, four or eight hexadecimal
    digits after `x`, `u` or `U`, or three octal digits;
  * the octal form and `\x` give a BYTE, which is a character of its own only below 0x80;
  * a double quote ends the literal, a line feed cannot stand in one, any other character stands
    for itself.

  Main statements: what `quote` writes is read back, exactly and whatever follows
  (`interpreted?_quote`), and no control character stands in it (`isControl_of_mem_quote`), so it
  keeps to one line.
-/
import GoTemplate.Go.Literal

namespace GoTemplate.Go

/-! ## The reader -/

/-- Escapes of a single letter or mark. -/
def namedEscape? : Char → Option Char
  | 'a' => some '\x07'
  | 'b' => some '\x08'
  | 'f' => some '\x0c'
  | 'n' => some '\n'
  | 'r' => some '\r'
  | 't' => some '\t'
  | 'v' => some '\x0b'
  | '\\' => some '\\'
  | '"' => some '"'
  | _ => none

/-- Escapes of exactly `width` digits, for characters up to `limit`. -/
def numericEscape? (base width limit : Nat) (t : Text) : Option (Char × Text) :=
  match baseValue? base (t.take width) with
  | none => none
  | some n =>
    if width ≤ t.length ∧ n ≤ limit ∧ n.isValidChar then some (Char.ofNat n, t.drop width) else none

/-- The character of an escape, after its backslash. -/
def escape? : Text → Option (Char × Text)
  | [] => none
  | c :: t => match namedEscape? c with
    | some v => some (v, t)
    | none =>
      if c = 'x' then numericEscape? 16 2 0x7f t
      else if c = 'u' then numericEscape? 16 4 0x10ffff t
      else if c = 'U' then numericEscape? 16 8 0x10ffff t
      else numericEscape? 8 3 0x7f (c :: t)

/-- One character of a literal, and what follows it. -/
def literalChar? : Text → Option (Char × Text)
  | [] => none
  | c :: t =>
    if c = '\\' then escape? t
    else if c = '"' ∨ c = '\n' then none
    else some (c, t)

theorem length_numericEscape? {base width limit : Nat} {t rest : Text} {c : Char}
    (h : numericEscape? base width limit t = some (c, rest)) : rest.length ≤ t.length := by
  rw [numericEscape?] at h
  split at h
  · nomatch h
  · split at h
    · cases h
      rw [List.length_drop]
      omega
    · nomatch h

theorem length_literalChar? {t rest : Text} {c : Char} (h : literalChar? t = some (c, rest)) :
    rest.length < t.length := by
  cases t with
  | nil => cases h
  | cons a t =>
    rw [literalChar?] at h
    rw [List.length_cons]
    split at h
    · cases t with
      | nil => cases h
      | cons b t =>
        rw [escape?] at h
        rw [List.length_cons]
        split at h
        · cases h; omega
        · split at h
          · have := length_numericEscape? h; omega
          · split at h
            · have := length_numericEscape? h; omega
            · split at h
              · have := length_numericEscape? h; omega
              · have := length_numericEscape? h
                rw [List.length_cons] at this
                omega
    · split at h
      · cases h
      · cases h; omega

/-- The value of a literal after its opening quote, and what follows its closing quote. -/
def literalRest? (t : Text) : Option (Text × Text) :=
  if t.head? = some '"' then some ([], t.tail)
  else match _h : literalChar? t with
    | none => none
    | some (c, rest) => (literalRest? rest).map fun p => (c :: p.1, p.2)
termination_by t.length
decreasing_by exact length_literalChar? _h

/-- The value of the interpreted literal at the start of a text, and what follows it. -/
def interpreted? : Text → Option (Text × Text)
  | [] => none
  | c :: t => if c = '"' then literalRest? t else none

/-! ## What the writer writes is read back -/

/-- A number is written with exactly `width` hexadecimal digits, which give it back, and none of
    which is a control character. -/
def FitsHex (width n : Nat) : Prop :=
  (hexadecimal width n).length = width ∧ baseValue? 16 (hexadecimal width n) = some n
    ∧ ∀ x ∈ hexadecimal width n, isControl x = false

/-- Digits can be checked one number at a time. -/
theorem fitsHex_of_all {width bound : Nat}
    (h : (List.range bound).all (fun n => (hexadecimal width n).length == width
      && baseValue? 16 (hexadecimal width n) == some n
      && (hexadecimal width n).all (!isControl ·)) = true) {n : Nat} (hn : n < bound) :
    FitsHex width n := by
  have hcheck := List.all_eq_true.1 h n (List.mem_range.2 hn)
  simp only [Bool.and_eq_true, beq_iff_eq, List.all_eq_true, Bool.not_eq_true'] at hcheck
  exact ⟨hcheck.1.1, hcheck.1.2, hcheck.2⟩

/-- Two digits are enough below 0x80. -/
theorem fitsHex_two {n : Nat} (hn : n < 0x80) : FitsHex 2 n :=
  fitsHex_of_all (by decide +kernel) hn

/-- Four digits do below 0xa0, where the control characters end. -/
theorem fitsHex_four {n : Nat} (hn : n < 0xa0) : FitsHex 4 n :=
  fitsHex_of_all (by decide +kernel) hn

theorem isControl_lt {c : Char} (h : isControl c = true) : c.toNat < 0xa0 := by
  rw [isControl, Bool.or_eq_true, Bool.and_eq_true] at h
  simp only [decide_eq_true_eq] at h
  omega

/-- Digits of a character, written with a fixed width, are read as that character. -/
theorem numericEscape?_append {base width limit : Nat} {digits : Text} {c : Char}
    (hlen : digits.length = width) (hval : baseValue? base digits = some c.toNat)
    (hlimit : c.toNat ≤ limit) (rest : Text) :
    numericEscape? base width limit (digits ++ rest) = some (c, rest) := by
  have hvalid : c.toNat.isValidChar := c.valid
  rw [numericEscape?, List.take_left' hlen, hval]
  simp only [List.length_append, List.drop_left' hlen]
  rw [if_pos ⟨by omega, hlimit, hvalid⟩, Char.ofNat_toNat]

theorem literalChar?_quoteChar (c : Char) (rest : Text) :
    literalChar? (quoteChar c ++ rest) = some (c, rest) := by
  unfold quoteChar
  split
  -- the nine named escapes
  iterate 9 rfl
  next hq hb hn _ _ _ _ _ _ =>
    split
    · next hc =>
      have hlt := isControl_lt hc
      split
      · next h80 =>
        obtain ⟨hlen, hval, _⟩ := fitsHex_two h80
        exact numericEscape?_append hlen hval (by omega) rest
      · obtain ⟨hlen, hval, _⟩ := fitsHex_four hlt
        rw [if_pos (by omega)]
        exact numericEscape?_append hlen hval (by omega) rest
    · show literalChar? (c :: rest) = some (c, rest)
      rw [literalChar?, if_neg hb, if_neg (not_or.2 ⟨hq, hn⟩)]

/-- A quoted character does not start with the quote that ends a literal. -/
theorem head?_quoteChar_append (c : Char) (rest : Text) :
    (quoteChar c ++ rest).head? ≠ some '"' := by
  unfold quoteChar
  split
  iterate 9 exact (by simp)
  next hq _ _ _ _ _ _ _ _ =>
    split
    · split
      · simp
      · split <;> simp
    · simpa using hq

theorem literalRest?_flatMap_quoteChar (t rest : Text) :
    literalRest? (t.flatMap quoteChar ++ '"' :: rest) = some (t, rest) := by
  induction t with
  | nil => rw [literalRest?]; rfl
  | cons c t ih =>
    rw [List.flatMap_cons, List.append_assoc, literalRest?, if_neg (head?_quoteChar_append c _)]
    split
    · next h => rw [literalChar?_quoteChar] at h; nomatch h
    · next h =>
      rw [literalChar?_quoteChar] at h
      cases h
      rw [ih]
      rfl

/-- **A quoted text is read back**, whatever follows it. -/
theorem interpreted?_quote (t rest : Text) : interpreted? (quote t ++ rest) = some (t, rest) := by
  show literalRest? ((t.flatMap quoteChar ++ ['"']) ++ rest) = some (t, rest)
  rw [List.append_assoc]
  exact literalRest?_flatMap_quoteChar t rest

/-! ## What the writer writes stays on one line -/

theorem isControl_of_mem_quoteChar {c x : Char} (h : x ∈ quoteChar c) : isControl x = false := by
  unfold quoteChar at h
  split at h
  -- the nine named escapes
  iterate 9
    simp only [List.mem_cons, List.not_mem_nil, or_false] at h
    rcases h with rfl | rfl <;> rfl
  split at h
  · next hc =>
    have hlt := isControl_lt hc
    split at h
    · next h80 =>
      rcases List.mem_cons.1 h with rfl | h
      · rfl
      · rcases List.mem_cons.1 h with rfl | h
        · rfl
        · exact (fitsHex_two h80).2.2 x h
    · rw [if_pos (by omega)] at h
      rcases List.mem_cons.1 h with rfl | h
      · rfl
      · rcases List.mem_cons.1 h with rfl | h
        · rfl
        · exact (fitsHex_four hlt).2.2 x h
  · next hc =>
    rw [List.mem_singleton.1 h]
    exact Bool.not_eq_true _ ▸ hc

theorem isControl_of_mem_quote {t : Text} {x : Char} (h : x ∈ quote t) : isControl x = false := by
  rcases List.mem_cons.1 h with rfl | h
  · rfl
  · rcases List.mem_append.1 h with h | h
    · obtain ⟨c, _, hx⟩ := List.mem_flatMap.1 h
      exact isControl_of_mem_quoteChar hx
    · rw [List.mem_singleton.1 h]
      rfl

theorem newline_not_mem_quote (t : Text) : '\n' ∉ quote t :=
  fun h => absurd (isControl_of_mem_quote h) (by decide)

end GoTemplate.Go
