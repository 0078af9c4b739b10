/-
  What a string literal of Go denotes.

  A string of Go is a sequence of BYTES.  A character of an interpreted literal stands for its bytes
  in UTF-8, and so does an escape that names a character; `\x` and the octal form name a byte, which
  need not be part of a character at all.  A raw literal stands for the bytes of what is between its
  backticks, carriage returns left out.

  A text between double quotes denotes itself exactly if no double quote and no backslash is in it
  (`stringBytes?_self_iff`).  One half reads the characters one by one.  For the other half a
  backslash is the only obstacle, since a double quote ends the literal too early, and an escape
  takes up MORE bytes than it denotes (`unit?_shrinks`), which nothing behind it can make up for.
-/
import GoTemplate.Proofs.ByteOrder
import GoTemplate.Proofs.Literal
import GoTemplate.Proofs.RawLiterals

namespace GoTemplate.Go

/-! ## The value of a literal -/

/-- An escape that gives a byte from 0x80 on, after its backslash. -/
def byteEscape? (t : Text) : Option (List UInt8 × Text) :=
  let digits? := match after? ['x'] t with
    | some digits => numericEscape? 16 2 0xff digits
    | none => numericEscape? 8 3 0xff t
  digits?.map fun p => ([UInt8.ofNat p.1.toNat], p.2)

/-- The bytes of one character or escape of an interpreted literal, and what follows it. -/
def unit? (t : Text) : Option (List UInt8 × Text) :=
  match literalChar? t with
  | some (c, rest) => some (String.utf8EncodeChar c, rest)
  | none => (after? ['\\'] t).bind byteEscape?

theorem numericEscape?_eq {base width limit : Nat} {t rest : Text} {c : Char}
    (h : numericEscape? base width limit t = some (c, rest)) :
    ∃ used, t = used ++ rest ∧ used.length = width ∧ c.toNat ≤ limit := by
  rw [numericEscape?] at h
  split at h
  · cases h
  · next n hn =>
    split at h
    · next hwidth =>
      cases h
      refine ⟨t.take width, (List.take_append_drop width t).symm, ?_, ?_⟩
      · rw [List.length_take]
        omega
      · rw [Char.ofNat, dif_pos hwidth.2.2]
        exact hwidth.2.1
    · cases h

theorem byteEscape?_eq {t rest : Text} {b : List UInt8} (h : byteEscape? t = some (b, rest)) :
    ∃ used, t = used ++ rest ∧ b.length = 1 ∧ 1 ≤ used.length := by
  obtain ⟨⟨c, rest'⟩, hdigits, he⟩ := Option.map_eq_some_iff.1 h
  cases he
  split at hdigits
  · next digits hx =>
    obtain ⟨used, hused, hlength, -⟩ := numericEscape?_eq hdigits
    refine ⟨'x' :: used, ?_, rfl, ?_⟩
    · rw [eq_append_of_after? hx, hused]
      rfl
    · rw [List.length_cons]
      omega
  · obtain ⟨used, hused, hlength, -⟩ := numericEscape?_eq hdigits
    exact ⟨used, hused, rfl, by omega⟩

theorem length_unit? {t rest : Text} {b : List UInt8} (h : unit? t = some (b, rest)) :
    rest.length < t.length := by
  rw [unit?] at h
  split at h
  · next c rest' hc =>
    cases h
    exact length_literalChar? hc
  · obtain ⟨t', ht', h⟩ := Option.bind_eq_some_iff.1 h
    obtain ⟨used, rfl, -, hused⟩ := byteEscape?_eq h
    rw [eq_append_of_after? ht', List.length_append, List.length_append]
    omega

/-- The bytes of an interpreted literal after its opening quote, and what follows its closing
    quote. -/
def literalBytes? (t : Text) : Option (List UInt8 × Text) :=
  if t.head? = some '"' then some ([], t.tail)
  else match _h : unit? t with
    | none => none
    | some (b, rest) => (literalBytes? rest).map fun p => (b ++ p.1, p.2)
termination_by t.length
decreasing_by exact length_unit? _h

/-- The bytes of the string literal that a text is, if it is one. -/
def stringBytes? : Text → Option (List UInt8)
  | [] => none
  | c :: t =>
    if c = '"' then
      match literalBytes? t with
      | some (b, []) => some b
      | _ => none
    else if c = '\x60' then
      if t.dropWhile (· != '\x60') = ['\x60'] then
        some (utf8 (noReturns (t.takeWhile (· != '\x60'))))
      else none
    else none

/-- The first double quote that is not escaped is the last character. -/
def closesAtEnd (escaped : Bool) : Text → Bool
  | [] => false
  | c :: t =>
    if escaped then closesAtEnd false t
    else if c = '\\' then closesAtEnd true t
    else if c = '"' then t.isEmpty
    else closesAtEnd false t

/-- The shape of an interpreted literal: a double quote, and the first one after it that is not
    escaped is at the end. -/
def isInterpreted : Text → Bool
  | [] => false
  | c :: t => c == '"' && closesAtEnd false t

example : stringBytes? "\"a\\u00e9\\xff\"".toList = some [0x61, 0xc3, 0xa9, 0xff] := by
  decide +kernel
example : stringBytes? "`a\\n`".toList = some [0x61, 0x5c, 0x6e] := by decide +kernel

/-! ## Escapes shrink -/

theorem length_le_length_utf8 (t : Text) : t.length ≤ (utf8 t).length := by
  induction t with
  | nil => exact Nat.le_refl _
  | cons c t ih =>
    have hc := c.utf8Size_pos
    rw [utf8_cons, List.length_append, String.length_utf8EncodeChar, List.length_cons]
    omega

theorem utf8_append (s t : Text) : utf8 (s ++ t) = utf8 s ++ utf8 t := List.flatMap_append

theorem length_utf8EncodeChar_of_le {c : Char} (h : c.toNat ≤ 0x7f) :
    (String.utf8EncodeChar c).length = 1 := by
  rw [String.length_utf8EncodeChar, Char.utf8Size_eq_one_iff, UInt32.le_iff_toNat_le]
  exact h

theorem length_utf8EncodeChar_le (c : Char) : (String.utf8EncodeChar c).length ≤ 4 := by
  rw [String.length_utf8EncodeChar]
  exact c.utf8Size_le_four

/-- A character has four bytes at most, and one if its number is small. -/
theorem numericEscape?_shrinks {base width limit : Nat} {t rest : Text} {c : Char}
    (h : numericEscape? base width limit t = some (c, rest))
    (hfit : limit ≤ 0x7f ∧ 1 ≤ width ∨ 4 ≤ width) :
    ∃ used, t = used ++ rest ∧ (String.utf8EncodeChar c).length ≤ used.length := by
  obtain ⟨used, hused, hlength, hlimit⟩ := numericEscape?_eq h
  refine ⟨used, hused, ?_⟩
  rcases hfit with ⟨hascii, hone⟩ | hfour
  · rw [length_utf8EncodeChar_of_le (hlimit.trans hascii), hlength]
    exact hone
  · rw [hlength]
    exact (length_utf8EncodeChar_le c).trans hfour

/-- The character that an escape names has no more bytes than its name. -/
theorem escape?_shrinks {t rest : Text} {c : Char} (h : escape? t = some (c, rest)) :
    ∃ used, t = used ++ rest ∧ (String.utf8EncodeChar c).length ≤ used.length := by
  cases t with
  | nil => cases h
  | cons a t =>
    -- a letter in front of the digits is used up as well
    have hletter : (∃ used, t = used ++ rest ∧ (String.utf8EncodeChar c).length ≤ used.length) →
        ∃ used, a :: t = used ++ rest ∧ (String.utf8EncodeChar c).length ≤ used.length := by
      rintro ⟨used, rfl, hle⟩
      exact ⟨a :: used, rfl, hle.trans (Nat.le_succ _)⟩
    rw [escape?] at h
    split at h
    · next v hv =>
      cases h
      refine ⟨[a], rfl, ?_⟩
      have hascii : c.toNat ≤ 0x7f := by
        unfold namedEscape? at hv
        split at hv <;> cases hv <;> decide
      rw [length_utf8EncodeChar_of_le hascii]
      exact Nat.le_refl 1
    · split at h
      · exact hletter (numericEscape?_shrinks h (by decide))
      · split at h
        · exact hletter (numericEscape?_shrinks h (by decide))
        · split at h
          · exact hletter (numericEscape?_shrinks h (by decide))
          · exact numericEscape?_shrinks h (by decide)

/-- A character takes up the bytes it stands for, and an escape takes up more. -/
theorem unit?_shrinks {t rest : Text} {b : List UInt8} (h : unit? t = some (b, rest)) :
    b.length + (utf8 rest).length ≤ (utf8 t).length
      ∧ (t.head? = some '\\' → b.length + (utf8 rest).length < (utf8 t).length) := by
  -- behind a backslash, what is used up has at least as many characters as `b` has bytes
  have hescape : ∀ {u used : Text}, u = used ++ rest → b.length ≤ used.length →
      b.length + (utf8 rest).length < (utf8 ('\\' :: u)).length := by
    rintro u used rfl hused
    have hbytes := length_le_length_utf8 used
    have hslash : (String.utf8EncodeChar '\\').length = 1 := rfl
    rw [utf8_cons, utf8_append, List.length_append, List.length_append, hslash]
    omega
  rw [unit?] at h
  split at h
  · next c rest' hchar =>
    cases h
    cases t with
    | nil => cases hchar
    | cons a t =>
      rw [literalChar?] at hchar
      split at hchar
      · next ha =>
        subst ha
        obtain ⟨used, hused, hlength⟩ := escape?_shrinks hchar
        have hlt := hescape hused hlength
        exact ⟨Nat.le_of_lt hlt, fun _ => hlt⟩
      · next ha =>
        split at hchar
        · cases hchar
        · cases hchar
          rw [utf8_cons, List.length_append]
          exact ⟨Nat.le_refl _, fun hhead => absurd (Option.some.inj hhead) ha⟩
  · obtain ⟨t', ht', h⟩ := Option.bind_eq_some_iff.1 h
    obtain ⟨used, hused, hone, hlength⟩ := byteEscape?_eq h
    have hlt := hescape hused (by omega)
    rw [eq_append_of_after? ht']
    exact ⟨Nat.le_of_lt hlt, fun _ => hlt⟩

/-- A literal takes up at least the bytes it denotes and one for its closing quote. -/
theorem literalBytes?_shrinks {t rest : Text} {b : List UInt8}
    (h : literalBytes? t = some (b, rest)) :
    b.length + (utf8 rest).length < (utf8 t).length := by
  fun_induction literalBytes? t generalizing b rest with
  | case1 t hquote =>
    cases h
    cases t with
    | nil => cases hquote
    | cons c t =>
      have hc := c.utf8Size_pos
      rw [utf8_cons, List.length_append, String.length_utf8EncodeChar]
      show 0 + (utf8 t).length < _
      omega
  | case2 t hquote hunit => cases h
  | case3 t hquote b' rest' hunit ih =>
    obtain ⟨⟨b'', rest''⟩, hbytes, he⟩ := Option.map_eq_some_iff.1 h
    cases he
    have hfirst := (unit?_shrinks hunit).1
    have hlater := ih hbytes
    show (b' ++ b'').length + (utf8 rest'').length < _
    rw [List.length_append]
    omega

/-! ## Texts that denote themselves -/

theorem unit?_plain {c : Char} (hquote : c ≠ '"') (hslash : c ≠ '\\') (hnewline : c ≠ '\n')
    (t : Text) : unit? (c :: t) = some (String.utf8EncodeChar c, t) := by
  rw [unit?, literalChar?, if_neg hslash, if_neg (not_or.2 ⟨hquote, hnewline⟩)]

theorem head?_cons_ne {c : Char} (h : c ≠ '"') (t : Text) : (c :: t).head? ≠ some '"' :=
  fun hhead => h (Option.some.inj hhead)

theorem literalBytes?_unit {t rest : Text} {b : List UInt8} (hhead : t.head? ≠ some '"')
    (h : unit? t = some (b, rest)) :
    literalBytes? t = (literalBytes? rest).map fun p => (b ++ p.1, p.2) := by
  rw [literalBytes?, if_neg hhead]
  split
  · next hnone => rw [h] at hnone; cases hnone
  · next hsome => rw [h] at hsome; cases hsome; rfl

/-- Without special characters, a text denotes itself. -/
theorem literalBytes?_plain {path : Text}
    (h : ∀ c ∈ path, c ≠ '"' ∧ c ≠ '\\' ∧ c ≠ '\n') (rest : Text) :
    literalBytes? (path ++ '"' :: rest) = some (utf8 path, rest) := by
  induction path with
  | nil => rw [literalBytes?]; rfl
  | cons c path ih =>
    obtain ⟨hquote, hslash, hnewline⟩ := h c List.mem_cons_self
    have hunit := unit?_plain hquote hslash hnewline (path ++ '"' :: rest)
    rw [List.cons_append, literalBytes?_unit (head?_cons_ne hquote _) hunit,
      ih fun x hx => h x (List.mem_cons_of_mem c hx), utf8_cons]
    rfl

/-- **A text denotes itself only if nothing in it is special.** -/
theorem not_mem_of_literalBytes? {path : Text}
    (h : literalBytes? (path ++ ['"']) = some (utf8 path, [])) : '"' ∉ path ∧ '\\' ∉ path := by
  induction path with
  | nil => exact ⟨List.not_mem_nil, List.not_mem_nil⟩
  | cons c path ih =>
    have hquote : c ≠ '"' := by
      -- the literal would end before `path`
      rintro rfl
      rw [List.cons_append, literalBytes?] at h
      have hrest := (Prod.mk.inj (Option.some.inj h)).2
      exact List.append_ne_nil_of_right_ne_nil path (List.cons_ne_nil _ _) hrest
    obtain ⟨⟨b, rest⟩, hunit⟩ : ∃ p, unit? (c :: (path ++ ['"'])) = some p := by
      rw [List.cons_append, literalBytes?, if_neg (head?_cons_ne hquote _)] at h
      split at h
      · cases h
      · next p hp => exact ⟨_, hp⟩
    rw [List.cons_append, literalBytes?_unit (head?_cons_ne hquote _) hunit] at h
    obtain ⟨⟨b', rest'⟩, hbytes, he⟩ := Option.map_eq_some_iff.1 h
    obtain ⟨hb, rfl⟩ := Prod.mk.inj he
    have hslash : c ≠ '\\' := by
      -- what an escape loses is not made up for behind it
      rintro rfl
      have hlt := (unit?_shrinks hunit).2 rfl
      have hlater := literalBytes?_shrinks hbytes
      have hlength : b.length + b'.length = (utf8 ('\\' :: path)).length := by
        rw [← hb, List.length_append]
      have hone : (utf8 ['"']).length = 1 := rfl
      rw [← List.cons_append, utf8_append, List.length_append, hone] at hlt
      omega
    have hnewline : c ≠ '\n' := by
      rintro rfl
      cases hunit
    rw [unit?_plain hquote hslash hnewline] at hunit
    cases hunit
    rw [utf8_cons] at hb
    obtain rfl : b' = utf8 path := List.append_cancel_left hb
    obtain ⟨hquotes, hslashes⟩ := ih hbytes
    exact ⟨List.not_mem_cons_of_ne_of_not_mem hquote.symm hquotes,
      List.not_mem_cons_of_ne_of_not_mem hslash.symm hslashes⟩

theorem stringBytes?_double (t : Text) (b : List UInt8) :
    stringBytes? ('"' :: t) = some b ↔ literalBytes? t = some (b, []) := by
  rw [stringBytes?, if_pos rfl]
  constructor
  · intro h
    split at h
    · next hbytes => cases h; exact hbytes
    · cases h
  · intro h
    rw [h]

/-- **Between double quotes, a text on one line denotes itself exactly if it has no double quote
    and no backslash.** -/
theorem stringBytes?_self_iff {path : Text} (hnewline : '\n' ∉ path) :
    stringBytes? ('"' :: (path ++ ['"'])) = some (utf8 path) ↔ '"' ∉ path ∧ '\\' ∉ path := by
  rw [stringBytes?_double]
  constructor
  · exact not_mem_of_literalBytes?
  · rintro ⟨hquotes, hslashes⟩
    refine literalBytes?_plain (fun c hc => ⟨?_, ?_, ?_⟩) []
    · rintro rfl; exact hquotes hc
    · rintro rfl; exact hslashes hc
    · rintro rfl; exact hnewline hc

/-- Between backticks, a text without a carriage return denotes itself. -/
theorem stringBytes?_raw {path : Text} (h : ∀ c ∈ path, c ≠ '\x60' ∧ c ≠ '\r') :
    stringBytes? ('\x60' :: (path ++ ['\x60'])) = some (utf8 path) := by
  have hbody : ∀ c ∈ path, (c != '\x60') = true := fun c hc => bne_iff_ne.2 (h c hc).1
  have hreturns : noReturns path = path :=
    List.filter_eq_self.2 fun c hc => bne_iff_ne.2 (h c hc).2
  rw [stringBytes?, if_neg (by decide), if_pos rfl, List.dropWhile_append_of_pos hbody,
    List.takeWhile_append_of_pos hbody, List.dropWhile_cons_of_neg (by decide), if_pos rfl,
    List.takeWhile_cons_of_neg (by decide), List.append_nil, hreturns]

/-- Without special characters, a text between double quotes has the shape of a literal. -/
theorem isInterpreted_plain {path : Text} (hquotes : '"' ∉ path) (hslashes : '\\' ∉ path) :
    isInterpreted ('"' :: (path ++ ['"'])) = true := by
  have hcloses : closesAtEnd false (path ++ ['"']) = true := by
    induction path with
    | nil => rfl
    | cons c path ih =>
      have hquote : c ≠ '"' := fun hc => hquotes (hc ▸ List.mem_cons_self)
      have hslash : c ≠ '\\' := fun hc => hslashes (hc ▸ List.mem_cons_self)
      rw [List.cons_append, closesAtEnd, if_neg Bool.false_ne_true, if_neg hslash, if_neg hquote]
      exact ih (List.not_mem_of_not_mem_cons hquotes) (List.not_mem_of_not_mem_cons hslashes)
  rw [isInterpreted, hcloses]
  rfl

end GoTemplate.Go
