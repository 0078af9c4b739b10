/-
  Quoting is a code that delimits itself.

  `Go.quote` puts any text between double quotes.  Three readers agree on what it writes, whatever
  stands behind:

  1. the reader of characters finds the text and stops right behind the closing quote
     (`interpreted?_quote`), so two quoted texts can be told apart by what they begin with, and
     neither begins another (`quote_append_inj`);
  2. the reader of bytes finds the bytes of the same text.  An escape for a BYTE is written only
     below 0x80, where a byte is a character, and wherever the reader of characters gets on, the
     reader of bytes does as it does (`literalBytes?_of_literalRest?`);
  3. the reader of lines finds no end in it, for no control character is left
     (`lines_quote_append`).
-/
import GoTemplate.Proofs.SectionText

namespace GoTemplate.Go

/-! ## Bytes -/

/-- **Where the reader of characters gets on, the reader of bytes finds the same text.** -/
theorem literalBytes?_of_literalRest? {t s rest : Text} (h : literalRest? t = some (s, rest)) :
    literalBytes? t = some (utf8 s, rest) := by
  fun_induction literalRest? t generalizing s rest with
  | case1 t hquote =>
    cases h
    rw [literalBytes?, if_pos hquote]
    rfl
  | case2 t hquote hchar => cases h
  | case3 t hquote c rest' hchar ih =>
    obtain ⟨⟨s', rest''⟩, hlater, he⟩ := Option.map_eq_some_iff.1 h
    cases he
    have hunit : unit? t = some (String.utf8EncodeChar c, rest') := by
      rw [unit?, hchar]
    rw [literalBytes?_unit hquote hunit, ih hlater]
    rfl

/-- A quoted text is a literal with the bytes of the text, whatever follows it. -/
theorem operand?_quote (s t : Text) :
    operand? (quote s ++ t) = some (.interpreted (utf8 s), t) := by
  have hbytes := literalBytes?_of_literalRest? (literalRest?_flatMap_quoteChar s t)
  show (literalBytes? ((s.flatMap quoteChar ++ ['"']) ++ t)).map _ = _
  rw [List.append_assoc, List.singleton_append, hbytes]
  rfl

/-! ## Codes that delimit themselves -/

/-- No quoted text begins another one, and different texts are quoted differently. -/
theorem quote_append_inj {s s' t t' : Text} (h : quote s ++ t = quote s' ++ t') :
    s = s' ∧ t = t' := by
  have hread : some (s, t) = some (s', t') :=
    calc some (s, t) = interpreted? (quote s ++ t) := (interpreted?_quote s t).symm
      _ = interpreted? (quote s' ++ t') := by rw [h]
      _ = some (s', t') := interpreted?_quote s' t'
  exact Prod.mk.inj (Option.some.inj hread)

/-- A quoted text does not end a line, and the line that ends behind it is the quoted text. -/
theorem lines_quote_append (s t : Text) : lines (quote s ++ '\n' :: t) = quote s :: lines t := by
  refine lines_append_newline (newline_not_mem_quote s) ?_ t
  have hlast : (quote s).getLast? = some '"' := by
    rw [quote, ← List.cons_append, List.getLast?_append]
    rfl
  rw [hlast]
  decide

/-- **Quoting delimits itself and loses nothing.**  A quoted text is read back whatever follows it,
    as characters and as bytes, and reading stops right behind it; so what is quoted and what
    follows are determined by the two put together.  There is no control character in it, in
    particular no end of a line. -/
theorem quote_self_delimiting (s t : Text) :
    interpreted? (quote s ++ t) = some (s, t)
    ∧ operand? (quote s ++ t) = some (.interpreted (utf8 s), t)
    ∧ (∀ s' t', quote s ++ t = quote s' ++ t' → s = s' ∧ t = t')
    ∧ (∀ c ∈ quote s, 0x20 ≤ c.toNat ∧ ¬(0x7f ≤ c.toNat ∧ c.toNat < 0xa0))
    ∧ '\n' ∉ quote s ∧ '\r' ∉ quote s
    ∧ lines (quote s ++ '\n' :: t) = quote s :: lines t := by
  have hvisible : ∀ c ∈ quote s, 0x20 ≤ c.toNat ∧ ¬(0x7f ≤ c.toNat ∧ c.toNat < 0xa0) := by
    intro c hc
    have hcontrol := isControl_of_mem_quote hc
    simp only [isControl, Bool.or_eq_false_iff, Bool.and_eq_false_iff, decide_eq_false_iff_not]
      at hcontrol
    omega
  refine ⟨interpreted?_quote s t, operand?_quote s t, fun s' t' => quote_append_inj, hvisible,
    newline_not_mem_quote s, fun hreturn => ?_, lines_quote_append s t⟩
  exact absurd (hvisible '\r' hreturn).1 (by decide)

/-- A control character before a hexadecimal digit, and a backslash before the closing quote. -/
example : interpreted? (quote "\x01f\u0085a\\".toList ++ "\\\"b\"".toList)
    = some ("\x01f\u0085a\\".toList, "\\\"b\"".toList) := by decide +kernel

end GoTemplate.Go
