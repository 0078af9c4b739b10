/-
  A section's text is returned as it is.

  The function of a section returns its text, written as raw literals with a `+` and an interpreted
  literal for each backtick.  `concatenation?` reads such an expression by the lexical rules of Go:
  literals, blanks and comments between tokens, and the rule that a line end behind a literal ends
  the statement, while one behind a `+` does not.

  1. A raw literal ends at the first backtick (`operand?_raw`), so the text is cut exactly at its
     own backticks, the first and the last included, and each is put back by a literal of its own.
  2. Behind the last literal the reader is at the end of a line, so it stops there, whatever stands
     on the next line (`plus?_of_line_end`).
  3. The value is the text without its carriage returns, which no raw literal keeps.  Nothing else
     can be lost, since texts with the same bytes are the same (`utf8_injective`).
-/
import GoTemplate.Proofs.LiteralValues

namespace GoTemplate

/-- Texts with the same bytes are the same. -/
theorem utf8_injective : Function.Injective utf8 := by
  intro s t h
  rcases lt_trichotomy s t with hlt | rfl | hlt
  · exact absurd (h ▸ utf8_lt_of_lt hlt) (List.lt_irrefl _)
  · rfl
  · exact absurd (h ▸ utf8_lt_of_lt hlt) (List.lt_irrefl _)

namespace Go

/-! ## A reader of concatenations -/

/-- A string literal in a concatenation: a raw one with the text between its backticks, or an
    interpreted one with its value. -/
inductive Operand where
  | raw (text : Text)
  | interpreted (bytes : List UInt8)
deriving DecidableEq

/-- The value of a literal; a raw one has no carriage returns. -/
def Operand.bytes : Operand → List UInt8
  | .raw t => utf8 (noReturns t)
  | .interpreted b => b

/-- The string literal at the start of a text, and what follows it. -/
def operand? : Text → Option (Operand × Text)
  | [] => none
  | c :: t =>
    if c = '\x60' then
      match t.dropWhile (· != '\x60') with
      | [] => none
      | _ :: rest => some (.raw (t.takeWhile (· != '\x60')), rest)
    else if c = '"' then (literalBytes? t).map fun p => (.interpreted p.1, p.2)
    else none

/-- What stands between tokens. -/
inductive Filler where
  | blanks
  | lineComment
  | blockComment

/-- What follows the blanks and comments at the start of a text, and whether a line ends among them.
    A block comment that is not closed is followed by nothing at all. -/
def skip : Filler → Bool → Text → Option (Bool × Text)
  | .blockComment, _, [] => none
  | _, ended, [] => some (ended, [])
  | .blanks, ended, '/' :: '/' :: t => skip .lineComment ended t
  | .blanks, ended, '/' :: '*' :: t => skip .blockComment ended t
  | .blanks, ended, c :: t =>
    if c = '\n' then skip .blanks true t
    else if c = ' ' ∨ c = '\t' ∨ c = '\r' then skip .blanks ended t
    else some (ended, c :: t)
  | .lineComment, ended, c :: t =>
    if c = '\n' then skip .blanks true t else skip .lineComment ended t
  | .blockComment, ended, '*' :: '/' :: t => skip .blanks ended t
  | .blockComment, ended, c :: t => skip .blockComment (ended || c == '\n') t

/-- Behind a literal: what follows a `+` and the filler after it.  Before the `+` no line may end,
    since that would end the statement; and `++` and `+=` are other tokens. -/
def plus? (t : Text) : Option Text :=
  match skip .blanks false t with
  | some (false, '+' :: rest) =>
    if rest.head? = some '+' ∨ rest.head? = some '=' then none
    else (skip .blanks false rest).map Prod.snd
  | _ => none

theorem length_literalBytes? {t rest : Text} {b : List UInt8}
    (h : literalBytes? t = some (b, rest)) : rest.length < t.length := by
  fun_induction literalBytes? t generalizing b rest with
  | case1 t hquote =>
    cases h
    cases t with
    | nil => cases hquote
    | cons c t => exact Nat.lt_succ_self _
  | case2 t hquote hunit => cases h
  | case3 t hquote b' rest' hunit ih =>
    obtain ⟨⟨b'', rest''⟩, hbytes, he⟩ := Option.map_eq_some_iff.1 h
    cases he
    exact Nat.lt_trans (ih hbytes) (length_unit? hunit)

theorem length_operand? {t rest : Text} {x : Operand} (h : operand? t = some (x, rest)) :
    rest.length < t.length := by
  cases t with
  | nil => cases h
  | cons c t =>
    rw [operand?] at h
    split at h
    · split at h
      · cases h
      · next d rest' hdrop =>
        cases h
        have hle := (List.dropWhile_suffix (· != '\x60') (l := t)).length_le
        rw [hdrop] at hle
        simp only [List.length_cons] at hle ⊢
        omega
    · split at h
      · obtain ⟨⟨b, rest'⟩, hb, he⟩ := Option.map_eq_some_iff.1 h
        cases he
        exact Nat.lt_succ_of_lt (length_literalBytes? hb)
      · cases h

theorem length_skip {f : Filler} {ended ended' : Bool} {t rest : Text}
    (h : skip f ended t = some (ended', rest)) : rest.length ≤ t.length := by
  fun_induction skip f ended t
  case case1 => cases h
  case case2 | case7 => cases h; exact Nat.le_refl _
  case case3 ih | case4 ih | case10 ih => exact Nat.le_succ_of_le (Nat.le_succ_of_le (ih h))
  case case5 ih | case6 ih | case8 ih | case9 ih | case11 ih => exact Nat.le_succ_of_le (ih h)

theorem length_plus? {t rest : Text} (h : plus? t = some rest) : rest.length < t.length := by
  rw [plus?] at h
  split at h
  · next rest' hskip =>
    split at h
    · cases h
    · obtain ⟨⟨ended, rest''⟩, hskip', rfl⟩ := Option.map_eq_some_iff.1 h
      have hbefore := length_skip hskip
      have hbehind := length_skip hskip'
      rw [List.length_cons] at hbefore
      show rest''.length < t.length
      omega
  · cases h

/-- The string literals at the start of a text that are joined by `+`, and what follows the last. -/
def concatenation? (t : Text) : Option (List Operand × Text) :=
  match _h : operand? t with
  | none => none
  | some (x, rest) =>
    match _hplus : plus? rest with
    | none => some ([x], rest)
    | some next => (concatenation? next).map fun p => (x :: p.1, p.2)
termination_by t.length
decreasing_by exact Nat.lt_trans (length_plus? _hplus) (length_operand? _h)

example : concatenation? "`a` /* + */ +\n// b\n\"\\n\" ++ `c`".toList
    = some ([.raw ['a'], .interpreted [0x0a]], " ++ `c`".toList) := by decide +kernel

/-! ## Steps of the reader -/

theorem concatenation?_last {t rest : Text} {x : Operand} (hx : operand? t = some (x, rest))
    (hend : plus? rest = none) : concatenation? t = some ([x], rest) := by
  rw [concatenation?]
  split
  · next h => rw [hx] at h; cases h
  · next h =>
    rw [hx] at h
    cases h
    split
    · rfl
    · next h => rw [hend] at h; cases h

theorem concatenation?_cons {t rest next : Text} {x : Operand} (hx : operand? t = some (x, rest))
    (hplus : plus? rest = some next) :
    concatenation? t = (concatenation? next).map fun p => (x :: p.1, p.2) := by
  rw [concatenation?]
  split
  · next h => rw [hx] at h; cases h
  · next h =>
    rw [hx] at h
    cases h
    split
    · next h => rw [hplus] at h; cases h
    · next h => rw [hplus] at h; cases h; rfl

/-- A raw literal ends at the first backtick. -/
theorem operand?_raw {x : Text} (hx : '\x60' ∉ x) (t : Text) :
    operand? ('\x60' :: (x ++ '\x60' :: t)) = some (.raw x, t) := by
  have hbody : ∀ c ∈ x, (c != '\x60') = true := by
    intro c hc
    rw [bne_iff_ne]
    rintro rfl
    exact hx hc
  rw [operand?, if_pos rfl, List.dropWhile_append_of_pos hbody, List.takeWhile_append_of_pos hbody]
  simp

/-- The interpreted literal of one backtick. -/
def backtick : Operand := .interpreted (utf8 ['\x60'])

theorem operand?_backtick (t : Text) :
    operand? ('"' :: '\x60' :: '"' :: t) = some (backtick, t) := by
  have hplain : ∀ c ∈ ['\x60'], c ≠ '"' ∧ c ≠ '\\' ∧ c ≠ '\n' := by simp
  have hbytes : literalBytes? ('\x60' :: '"' :: t) = some (utf8 ['\x60'], t) :=
    literalBytes?_plain hplain t
  rw [operand?, if_neg (by decide), if_pos rfl, hbytes]
  rfl

/-- A line that has ended stays ended. -/
theorem ended_of_skip {f : Filler} {ended ended' : Bool} {t rest : Text}
    (h : skip f ended t = some (ended', rest)) : ended = true → ended' = true := by
  intro hended
  fun_induction skip f ended t
  case case1 => cases h
  case case2 | case7 => cases h; exact hended
  case case3 ih | case4 ih | case6 ih | case9 ih | case10 ih => exact ih h hended
  -- a line ends here
  case case5 ih | case8 ih => exact ih h rfl
  case case11 ih => exact ih h (by rw [hended]; rfl)

/-- **At the end of a line a concatenation ends**, even if the next line begins with a `+`. -/
theorem plus?_of_line_end {t : Text} (ht : ∀ c ∈ t.head?, c = '\n') : plus? t = none := by
  cases t with
  | nil => rfl
  | cons c t =>
    obtain rfl : c = '\n' := ht c rfl
    rw [plus?]
    split
    · next rest hskip =>
      have hended : skip .blanks true t = some (false, '+' :: rest) := hskip
      exact absurd (ended_of_skip hended rfl) Bool.false_ne_true
    · rfl

/-! ## Raw strings -/

/-- The literals that a text is written with: one for each piece between backticks, and between
    them the literal of a backtick. -/
def splicedOperands (s : Text) : List Operand :=
  ((s.splitOn '\x60').map Operand.raw).intersperse backtick

/-- Along a text from backtick to backtick. -/
theorem backtick_induction {P : Text → Prop} (last : ∀ s, '\x60' ∉ s → P s)
    (splice : ∀ x y, '\x60' ∉ x → P y → P (x ++ '\x60' :: y)) (s : Text) : P s := by
  induction hn : s.length using Nat.strong_induction_on generalizing s with
  | _ n ih =>
    by_cases hs : '\x60' ∈ s
    · obtain ⟨x, y, rfl, hx⟩ := List.eq_append_cons_of_mem hs
      rw [List.length_append, List.length_cons] at hn
      exact splice x y hx (ih y.length (by omega) y rfl)
    · exact last s hs

theorem splicedOperands_of_not_mem {s : Text} (hs : '\x60' ∉ s) :
    splicedOperands s = [.raw s] := by
  rw [splicedOperands, splitOn_of_not_mem hs]
  rfl

theorem splicedOperands_append {x : Text} (hx : '\x60' ∉ x) (y : Text) :
    splicedOperands (x ++ '\x60' :: y) = .raw x :: backtick :: splicedOperands y := by
  have hcut : (x ++ '\x60' :: y).splitOn '\x60' = [x] ++ y.splitOn '\x60' := by
    rw [splitOn_append_cons, splitOn_of_not_mem hx]
  obtain ⟨p, ps, hps⟩ := List.exists_cons_of_ne_nil (List.splitOn_ne_nil '\x60' y)
  rw [splicedOperands, splicedOperands, hcut, hps]
  rfl

theorem flatMap_rawChar_of_not_mem {s : Text} (hs : '\x60' ∉ s) : s.flatMap rawChar = s := by
  induction s with
  | nil => rfl
  | cons c s ih =>
    rw [List.flatMap_cons, ih (List.not_mem_of_not_mem_cons hs), rawChar,
      if_neg (List.ne_of_not_mem_cons hs).symm]
    rfl

theorem rawString_of_not_mem {s : Text} (hs : '\x60' ∉ s) (t : Text) :
    rawString s ++ t = '\x60' :: (s ++ '\x60' :: t) := by
  rw [rawString, flatMap_rawChar_of_not_mem hs]
  simp

theorem rawString_append {x : Text} (hx : '\x60' ∉ x) (y t : Text) :
    rawString (x ++ '\x60' :: y) ++ t
      = '\x60' :: (x ++ '\x60' :: (" + \"`\" + ".toList ++ (rawString y ++ t))) := by
  have hmark : rawChar '\x60' = "` + \"`\" + `".toList := rfl
  rw [rawString, List.flatMap_append, List.flatMap_cons, flatMap_rawChar_of_not_mem hx, hmark,
    rawString]
  simp

/-- **A raw string is read as its literals, and reading stops at the end of its line.** -/
theorem concatenation?_rawString (s : Text) {t : Text} (ht : ∀ c ∈ t.head?, c = '\n') :
    concatenation? (rawString s ++ t) = some (splicedOperands s, t) := by
  induction s using backtick_induction with
  | last s hs =>
    rw [rawString_of_not_mem hs, splicedOperands_of_not_mem hs]
    exact concatenation?_last (operand?_raw hs t) (plus?_of_line_end ht)
  | splice x y hx ih =>
    -- three literals on: the piece, the backtick, and the first of the rest
    let rest := rawString y ++ t
    have hpiece := operand?_raw hx (" + \"`\" + ".toList ++ rest)
    have hmark := operand?_backtick (" + ".toList ++ rest)
    have hplus : plus? (" + \"`\" + ".toList ++ rest)
        = some ('"' :: '\x60' :: '"' :: (" + ".toList ++ rest)) := rfl
    have hplus' : plus? (" + ".toList ++ rest) = some rest := rfl
    rw [rawString_append hx, splicedOperands_append hx, concatenation?_cons hpiece hplus,
      concatenation?_cons hmark hplus', ih]
    rfl

/-- **The literals of a text have its value, but for the carriage returns.** -/
theorem bytes_splicedOperands (s : Text) :
    (splicedOperands s).flatMap Operand.bytes = utf8 (noReturns s) := by
  induction s using backtick_induction with
  | last s hs =>
    rw [splicedOperands_of_not_mem hs, List.flatMap_singleton]
    rfl
  | splice x y hx ih =>
    have hcut : noReturns (x ++ '\x60' :: y) = noReturns x ++ (['\x60'] ++ noReturns y) := by
      rw [noReturns, List.filter_append, List.filter_cons_of_pos (by decide)]
      rfl
    rw [splicedOperands_append hx, List.flatMap_cons, List.flatMap_cons, ih, hcut, utf8_append,
      utf8_append]
    rfl

theorem noReturns_eq_self_iff (s : Text) : noReturns s = s ↔ '\r' ∉ s := by
  rw [noReturns, List.filter_eq_self]
  constructor
  · intro h hreturn
    exact absurd (h '\r' hreturn) (by decide)
  · intro h c hc
    rw [bne_iff_ne]
    rintro rfl
    exact h hc

/-- The function of a section, with what follows it. -/
theorem renderSection_append (name s rest : Text) :
    renderSection ⟨name, s⟩ ++ rest
      = "\nfunc ".toList ++ name ++ "() string \x7b\n\treturn ".toList
        ++ (rawString s ++ ("\n\x7d\n".toList ++ rest)) := by
  have hsection : renderSection ⟨name, s⟩
      = "\nfunc ".toList ++ name ++ "() string \x7b\n\treturn ".toList ++ rawString s
        ++ "\n\x7d\n".toList := rfl
  rw [hsection, List.append_assoc, List.append_assoc]

/-- **Section text is returned as it is, up to carriage returns.**  Written as a raw string, at the
    end of a text or of a line, it is read as raw literals joined with the literals of its backticks,
    and reading leaves what stands behind.  The value is the text without its carriage returns, so
    it is the text exactly if there are none.  In the function of a section reading leaves the brace
    that closes it, whatever follows. -/
theorem section_text_verbatim (s t : Text) (ht : t = [] ∨ t.head? = some '\n') :
    concatenation? (rawString s ++ t) = some (splicedOperands s, t)
    ∧ (splicedOperands s).flatMap Operand.bytes = utf8 (noReturns s)
    ∧ ((splicedOperands s).flatMap Operand.bytes = utf8 s ↔ '\r' ∉ s)
    ∧ ∀ name rest,
        renderSection ⟨name, s⟩ ++ rest
          = "\nfunc ".toList ++ name ++ "() string \x7b\n\treturn ".toList
            ++ (rawString s ++ ("\n\x7d\n".toList ++ rest))
        ∧ concatenation? (rawString s ++ ("\n\x7d\n".toList ++ rest))
          = some (splicedOperands s, "\n\x7d\n".toList ++ rest) := by
  have hend : ∀ c ∈ t.head?, c = '\n' := by
    intro c hc
    rcases ht with rfl | ht
    · cases hc
    · rw [ht] at hc
      exact (Option.some.inj hc).symm
  refine ⟨concatenation?_rawString s hend, bytes_splicedOperands s, ?_, fun name rest => ⟨?_, ?_⟩⟩
  · rw [bytes_splicedOperands, utf8_injective.eq_iff, noReturns_eq_self_iff]
  · exact renderSection_append name s rest
  · refine concatenation?_rawString s ?_
    intro c hc
    exact (Option.some.inj hc).symm

/-- Backticks at both ends and next to each other, a carriage return, and a line behind that would
    go on with the concatenation. -/
theorem section_text_verbatim_backticks :
    let operands : List Operand := [.raw [], backtick, .raw "a\r\n".toList, backtick, .raw [],
      backtick, .raw []]
    concatenation? ("`` + \"`\" + `a\r\n` + \"`\" + `` + \"`\" + ``\n+ `b`".toList)
        = some (operands, "\n+ `b`".toList)
      ∧ operands.flatMap Operand.bytes = utf8 "`a\n``".toList := by
  have hwritten : rawString "`a\r\n``".toList
      = "`` + \"`\" + `a\r\n` + \"`\" + `` + \"`\" + ``".toList := by decide
  obtain ⟨hread, hvalue, -⟩ :=
    section_text_verbatim "`a\r\n``".toList "\n+ `b`".toList (.inr rfl)
  rw [hwritten] at hread
  exact ⟨hread, hvalue⟩

end Go

end GoTemplate
