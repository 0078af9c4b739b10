/-
  The scan for literals over the bytes of a line.

  `Go.ScanState` walks over characters.  Here the same walk goes over BYTES in UTF-8, with a quote
  and a flag for its state, and lists the bytes that are code, each with its offset (`codeBytes`).

  1. Quotes and backslashes are single bytes, and no byte of a longer code is one of them
     (`encode_cases`).  So the bytes of a character lead from the state before it to the state
     behind it (`run_encode`), and the scan over bytes stands where the scan over characters does
     (`run_utf8`).
  2. Of a character that is code and a single byte, that byte is listed (`selected_of_isCodeByte`);
     of any other, nothing below 0x80 is (`exists_selected_front`).
  3. A stretch of a line that begins where the scan is in code is a PIECE: it is cut where
     characters begin, and scanned afresh it has the same code (`CutAt.isPiece`).
-/
import GoTemplate.Proofs.LiteralValues
import GoTemplate.Proofs.SourceLiterals

namespace GoTemplate.Go

/-! ## The scan -/

/-- One of the three quotes. -/
def isQuoteByte (b : UInt8) : Bool :=
  b == '"'.toUInt8 || b == '\''.toUInt8 || b == '\x60'.toUInt8

/-- Where a scan over bytes stands: the quote of the literal it is in, if any, and whether a
    backslash was just read there. -/
structure ByteState where
  quote : Option UInt8 := none
  escaped : Bool := false
deriving DecidableEq

namespace ByteState

/-- The state after one more byte. -/
def next (s : ByteState) (b : UInt8) : ByteState :=
  match s.quote with
  | some q =>
    if s.escaped then { s with escaped := false }
    else if b = '\\'.toUInt8 ∧ q ≠ '\x60'.toUInt8 then { s with escaped := true }
    else if b = q then { s with quote := none }
    else s
  | none => if isQuoteByte b then { s with quote := some b } else s

/-- The state after more bytes. -/
def run (s : ByteState) (bytes : List UInt8) : ByteState := bytes.foldl next s

/-- A byte read in this state is code. -/
def selects (s : ByteState) (b : UInt8) : Bool := s.quote.isNone && !isQuoteByte b

end ByteState

/-- The bytes that are code, with their offsets, from a state and an offset on. -/
def selected (s : ByteState) (i : Nat) : List UInt8 → List (Nat × UInt8)
  | [] => []
  | b :: bytes =>
    if s.selects b then (i, b) :: selected (s.next b) (i + 1) bytes
    else selected (s.next b) (i + 1) bytes

/-- The bytes of a line that are code, with their offsets. -/
def codeBytes (line : List UInt8) : List (Nat × UInt8) := selected {} 0 line

example : codeBytes (utf8 "a'é';\"\\\";\"b".toList)
    = [(0, 'a'.toUInt8), (5, ';'.toUInt8), (11, 'b'.toUInt8)] := by decide +kernel

theorem selected_append (s : ByteState) (i : Nat) (u v : List UInt8) :
    selected s i (u ++ v) = selected s i u ++ selected (s.run u) (i + u.length) v := by
  induction u generalizing s i with
  | nil => rfl
  | cons b u ih =>
    have hoffset : i + (b :: u).length = i + 1 + u.length := by
      rw [List.length_cons]
      omega
    rw [List.cons_append, selected, selected, ih (s.next b), hoffset]
    split
    · rfl
    · rfl

theorem offset_of_mem_selected {s : ByteState} {i : Nat} {bytes : List UInt8} {p : Nat × UInt8}
    (h : p ∈ selected s i bytes) : i ≤ p.1 ∧ p.1 < i + bytes.length := by
  induction bytes generalizing s i with
  | nil => exact absurd h List.not_mem_nil
  | cons b bytes ih =>
    rw [List.length_cons]
    rw [selected] at h
    split at h
    · rcases List.mem_cons.1 h with rfl | h
      · exact ⟨Nat.le_refl i, by show i < _; omega⟩
      · have := ih h
        omega
    · have := ih h
      omega

theorem byte_of_mem_selected {s : ByteState} {i : Nat} {bytes : List UInt8} {p : Nat × UInt8}
    (h : p ∈ selected s i bytes) : p.2 ∈ bytes := by
  induction bytes generalizing s i with
  | nil => exact absurd h List.not_mem_nil
  | cons b bytes ih =>
    rw [selected] at h
    split at h
    · rcases List.mem_cons.1 h with rfl | h
      · exact List.mem_cons_self
      · exact List.mem_cons_of_mem b (ih h)
    · exact List.mem_cons_of_mem b (ih h)

/-- Offsets count from where the scan starts. -/
theorem selected_shift (s : ByteState) (i k : Nat) (bytes : List UInt8) :
    selected s (i + k) bytes = (selected s i bytes).map fun p => (p.1 + k, p.2) := by
  induction bytes generalizing s i with
  | nil => rfl
  | cons b bytes ih =>
    have hoffset : i + k + 1 = i + 1 + k := by omega
    rw [selected, selected, hoffset, ih]
    split
    · rfl
    · rfl

/-! ## Bytes of a character -/

theorem toUInt8_inj {c d : Char} (hc : c.toNat < 0x80) (hd : d.toNat < 0x80)
    (h : c.toUInt8 = d.toUInt8) : c = d := by
  have hmod : c.toNat % 256 = d.toNat % 256 := congrArg UInt8.toNat h
  have heq : c.toNat = d.toNat := by omega
  rw [← Char.ofNat_toNat c, heq, Char.ofNat_toNat]

theorem toUInt8_eq_iff {c d : Char} (hc : c.toNat < 0x80) (hd : d.toNat < 0x80) :
    c.toUInt8 = d.toUInt8 ↔ c = d := ⟨toUInt8_inj hc hd, congrArg Char.toUInt8⟩

theorem ne_toUInt8_of_le {b : UInt8} (hb : 0x80 ≤ b.toNat) {d : Char} (hd : d.toNat < 0x80) :
    b ≠ d.toUInt8 := by
  rintro rfl
  have hmod : d.toUInt8.toNat = d.toNat % 256 := rfl
  omega

theorem le_of_mem_trailBytes {k v : Nat} {b : UInt8} (h : b ∈ trailBytes k v) :
    0x80 ≤ b.toNat := by
  induction k with
  | zero => exact absurd h List.not_mem_nil
  | succ k ih =>
    rcases List.mem_cons.1 h with rfl | h
    · rw [UInt8.toNat_ofNat_of_lt' (by show _ < 256; omega)]
      omega
    · exact ih h

/-- **A character is a single byte below 0x80, or all its bytes are beyond.** -/
theorem encode_cases (c : Char) :
    c.toNat < 0x80 ∧ String.utf8EncodeChar c = [c.toUInt8]
    ∨ 0x80 ≤ c.toNat ∧ ∀ b ∈ String.utf8EncodeChar c, 0x80 ≤ b.toNat := by
  by_cases hc : c.toNat < 0x80
  · refine .inl ⟨hc, String.utf8EncodeChar_eq_singleton ?_⟩
    rw [Char.utf8Size_eq_one_iff, UInt32.le_iff_toNat_le]
    exact Nat.le_of_lt_succ hc
  · refine .inr ⟨by omega, fun b hb => ?_⟩
    have hmax := codePoint_lt c
    have hhigh : 0x80 ≤ c.val.toNat := Nat.le_of_not_lt hc
    rw [encode_eq] at hb
    rcases List.mem_cons.1 hb with rfl | hb
    · have hlead : 0x80 ≤ leadByte c.val.toNat ∧ leadByte c.val.toNat < 256 := by
        rw [leadByte]
        split_ifs <;> omega
      rw [UInt8.toNat_ofNat_of_lt' hlead.2]
      exact hlead.1
    · exact le_of_mem_trailBytes hb

theorem length_encode_of_lt {c : Char} (h : c.toNat < 0x80) :
    (String.utf8EncodeChar c).length = 1 := length_utf8EncodeChar_of_le (Nat.le_of_lt_succ h)

theorem encode_ne_nil (c : Char) : String.utf8EncodeChar c ≠ [] := by
  rw [encode_eq]
  exact List.cons_ne_nil _ _

theorem isQuote_lt {q : Char} (h : isQuote q = true) : q.toNat < 0x80 := by
  simp only [isQuote, Bool.or_eq_true, beq_iff_eq] at h
  rcases h with (rfl | rfl) | rfl <;> decide

theorem isQuoteByte_iff {c : Char} (hc : c.toNat < 0x80) :
    isQuoteByte c.toUInt8 = isQuote c := by
  have hbeq : ∀ d : Char, d.toNat < 0x80 → (c.toUInt8 == d.toUInt8) = (c == d) := by
    intro d hd
    rw [Bool.eq_iff_iff, beq_iff_eq, beq_iff_eq, toUInt8_eq_iff hc hd]
  rw [isQuoteByte, isQuote, hbeq _ (by decide), hbeq _ (by decide), hbeq _ (by decide)]

theorem isQuoteByte_of_le {b : UInt8} (hb : 0x80 ≤ b.toNat) : isQuoteByte b = false := by
  rw [Bool.eq_false_iff]
  intro h
  simp only [isQuoteByte, Bool.or_eq_true, beq_iff_eq] at h
  rcases h with (h | h) | h <;> exact ne_toUInt8_of_le hb (by decide) h

/-! ## The scan follows the characters -/

/-- The state over bytes for a state over characters. -/
def ScanState.onBytes : ScanState → ByteState
  | .code => {}
  | .literal q escaped => ⟨some q.toUInt8, escaped⟩

/-- A character that is code and a single byte. -/
def ScanState.isCodeByte (s : ScanState) (c : Char) : Bool := s.isCode c && decide (c.toNat < 0x80)

theorem isCodeByte_iff (s : ScanState) (c : Char) :
    s.isCodeByte c = true ↔ s = .code ∧ isQuote c = false ∧ c.toNat < 0x80 := by
  simp [ScanState.isCodeByte, ScanState.isCode, and_assoc]

/-- The state with no backslash pending. -/
def ScanState.rest : ScanState → ScanState
  | .code => .code
  | .literal q _ => .literal q false

theorem ScanState.selects_onBytes (s : ScanState) (b : UInt8) :
    s.onBytes.selects b = (s == .code && !isQuoteByte b) := by
  cases s with
  | code => rfl
  | literal q escaped => rfl

theorem ScanState.Opened.rest {s : ScanState} (h : s.Opened) : s.rest.Opened := by
  cases s with
  | code => exact h
  | literal q escaped => exact h

theorem ScanState.run_append (s : ScanState) (u v : Text) : s.run (u ++ v) = (s.run u).run v :=
  List.foldl_append

theorem ScanState.Opened.run {s : ScanState} (h : s.Opened) (t : Text) : (s.run t).Opened := by
  induction t generalizing s with
  | nil => exact h
  | cons c t ih => exact ih (h.next c)

section

variable {s : ScanState} (hs : s.Opened)
include hs

/-- A character beyond ASCII opens and closes nothing. -/
theorem next_of_le {c : Char} (hc : 0x80 ≤ c.toNat) : s.next c = s.rest := by
  have hquote : ∀ {q : Char}, isQuote q = true → c ≠ q := by
    rintro q hq rfl
    have := isQuote_lt hq
    omega
  have hslash : c ≠ '\\' := by
    rintro rfl
    exact absurd hc (by decide)
  cases s with
  | code => exact if_neg fun h => hquote h rfl
  | literal q escaped =>
    cases escaped with
    | true => rfl
    | false =>
      rw [ScanState.next, if_neg fun h => hslash h.1, if_neg (hquote hs)]
      rfl

/-- So does a byte of such a character. -/
theorem onBytes_next_of_le {b : UInt8} (hb : 0x80 ≤ b.toNat) :
    s.onBytes.next b = s.rest.onBytes := by
  cases s with
  | code =>
    show (if isQuoteByte b then _ else _) = _
    rw [isQuoteByte_of_le hb]
    rfl
  | literal q escaped =>
    cases escaped with
    | true => rfl
    | false =>
      simp only [ScanState.onBytes, ByteState.next, Bool.false_eq_true, if_false]
      rw [if_neg fun h => ne_toUInt8_of_le hb (by decide) h.1,
        if_neg (ne_toUInt8_of_le hb (isQuote_lt hs))]
      rfl

theorem onBytes_next {c : Char} (hc : c.toNat < 0x80) :
    s.onBytes.next c.toUInt8 = (s.next c).onBytes := by
  cases s with
  | code =>
    show (if isQuoteByte c.toUInt8 then _ else _) = _
    rw [isQuoteByte_iff hc, ScanState.next]
    split
    · rfl
    · rfl
  | literal q escaped =>
    cases escaped with
    | true => rfl
    | false =>
      have hq : q.toNat < 0x80 := isQuote_lt hs
      have hraw : q.toUInt8 = '\x60'.toUInt8 ↔ q = '\x60' := toUInt8_eq_iff hq (by decide)
      have hslash : c.toUInt8 = '\\'.toUInt8 ↔ c = '\\' := toUInt8_eq_iff hc (by decide)
      simp only [ScanState.onBytes, ByteState.next, Bool.false_eq_true, if_false, ScanState.next,
        toUInt8_eq_iff hc hq, hslash, hraw, ne_eq]
      split
      · rfl
      · split
        · rfl
        · rfl

/-- **The bytes of a character lead where the character leads.** -/
theorem run_encode (c : Char) : s.onBytes.run (String.utf8EncodeChar c) = (s.next c).onBytes := by
  rcases encode_cases c with ⟨hc, hencode⟩ | ⟨hc, hbytes⟩
  · rw [hencode]
    exact onBytes_next hs hc
  · have hrest : ∀ {r : ScanState}, r.Opened → ∀ bytes : List UInt8,
        (∀ b ∈ bytes, 0x80 ≤ b.toNat) → bytes ≠ [] → r.onBytes.run bytes = r.rest.onBytes := by
      intro r hr bytes
      induction bytes generalizing r with
      | nil => exact fun _ h => absurd rfl h
      | cons b bytes ih =>
        intro hhigh _
        obtain ⟨hb, hlater⟩ := List.forall_mem_cons.1 hhigh
        show (r.onBytes.next b).run bytes = _
        rw [onBytes_next_of_le hr hb]
        cases bytes with
        | nil => rfl
        | cons b' bytes =>
          have hagain : r.rest.rest = r.rest := by cases r <;> rfl
          rw [ih hr.rest hlater (List.cons_ne_nil b' bytes), hagain]
    rw [hrest hs _ hbytes (encode_ne_nil c), next_of_le hs hc]

theorem run_utf8 (t : Text) : s.onBytes.run (utf8 t) = (s.run t).onBytes := by
  induction t generalizing s with
  | nil => rfl
  | cons c t ih =>
    have hcut : s.onBytes.run (utf8 (c :: t))
        = (s.onBytes.run (String.utf8EncodeChar c)).run (utf8 t) := by
      rw [utf8_cons]
      exact List.foldl_append
    rw [hcut, run_encode hs, ih (hs.next c)]
    rfl

theorem selected_utf8_cons (i : Nat) (c : Char) (t : Text) :
    selected s.onBytes i (utf8 (c :: t)) = selected s.onBytes i (String.utf8EncodeChar c)
      ++ selected (s.next c).onBytes (i + (String.utf8EncodeChar c).length) (utf8 t) := by
  rw [utf8_cons, selected_append, run_encode hs]

/-- A character of code that is a single byte is listed. -/
theorem selected_of_isCodeByte {c : Char} (hc : s.isCodeByte c = true) (i : Nat) (t : Text) :
    selected s.onBytes i (utf8 (c :: t))
      = (i, c.toUInt8) :: selected (s.next c).onBytes (i + 1) (utf8 t) := by
  obtain ⟨rfl, hquote, hlt⟩ := (isCodeByte_iff s c).1 hc
  have hencode : String.utf8EncodeChar c = [c.toUInt8] := by
    rcases encode_cases c with ⟨-, hencode⟩ | ⟨hle, -⟩
    · exact hencode
    · omega
  have hselects : ScanState.code.onBytes.selects c.toUInt8 = true := by
    rw [ScanState.selects_onBytes, isQuoteByte_iff hlt, hquote]
    rfl
  rw [selected_utf8_cons hs, hencode, selected, if_pos hselects]
  rfl

/-- **Of any other character nothing below 0x80 is listed.** -/
theorem exists_selected_front {c : Char} (hc : s.isCodeByte c = false) (i : Nat) (t : Text) :
    ∃ front, selected s.onBytes i (utf8 (c :: t))
        = front ++ selected (s.next c).onBytes (i + (String.utf8EncodeChar c).length) (utf8 t)
      ∧ ∀ p ∈ front, p.1 < i + (String.utf8EncodeChar c).length ∧ 0x80 ≤ p.2.toNat := by
  refine ⟨_, selected_utf8_cons hs i c t, fun p hp => ⟨(offset_of_mem_selected hp).2, ?_⟩⟩
  rcases encode_cases c with ⟨hlt, hencode⟩ | ⟨-, hbytes⟩
  · -- a single byte that is not code
    have hselects : s.onBytes.selects c.toUInt8 = false := by
      rw [ScanState.isCodeByte, decide_eq_true hlt, Bool.and_true] at hc
      rw [ScanState.selects_onBytes, isQuoteByte_iff hlt]
      exact hc
    rw [hencode, selected, hselects] at hp
    exact absurd hp List.not_mem_nil
  · exact hbytes p.2 (byte_of_mem_selected hp)

end

/-! ## Pieces -/

theorem length_utf8_concat (u : Text) (c : Char) :
    (utf8 (u ++ [c])).length = (utf8 u).length + (String.utf8EncodeChar c).length := by
  rw [utf8_append, List.length_append, utf8_cons, List.length_append]
  rfl

/-- A character begins at an offset, or the text ends there. -/
def isBoundary (bytes : List UInt8) (i : Nat) : Bool :=
  i == 0 || match bytes[i]? with
    | some b => b.toNat < 0x80 || 0xc0 ≤ b.toNat
    | none => i == bytes.length

theorem isBoundary_append (u v : Text) : isBoundary (utf8 (u ++ v)) (utf8 u).length = true := by
  rw [isBoundary, utf8_append, Bool.or_eq_true]
  right
  rw [List.getElem?_append_right (Nat.le_refl _), Nat.sub_self]
  cases v with
  | nil => simp [utf8]
  | cons c v =>
    have hmax := codePoint_lt c
    have hlead : leadByte c.val.toNat < 0x80
        ∨ 0xc0 ≤ leadByte c.val.toNat ∧ leadByte c.val.toNat < 256 := by
      rw [leadByte]
      split_ifs <;> omega
    have hbyte : (UInt8.ofNat (leadByte c.val.toNat)).toNat = leadByte c.val.toNat :=
      UInt8.toNat_ofNat_of_lt' (by show _ < 256; omega)
    rw [utf8_cons, encode_eq, List.cons_append, List.getElem?_cons_zero]
    simp only [hbyte, Bool.or_eq_true, decide_eq_true_eq]
    omega

/-- A stretch of a line: the offset of its first byte and the offset behind its last. -/
structure Stretch where
  start : Nat
  stop : Nat
deriving DecidableEq

/-- What is listed of a stretch, with offsets that count from its start. -/
def Stretch.restrict (r : Stretch) (ps : List (Nat × UInt8)) : List (Nat × UInt8) :=
  (ps.filter fun p => r.start ≤ p.1 && p.1 < r.stop).map fun p => (p.1 - r.start, p.2)

theorem Stretch.restrict_append (r : Stretch) (ps qs : List (Nat × UInt8)) :
    r.restrict (ps ++ qs) = r.restrict ps ++ r.restrict qs := by
  rw [restrict, List.filter_append, List.map_append]
  rfl

theorem Stretch.restrict_outside {r : Stretch} {ps : List (Nat × UInt8)}
    (h : ∀ p ∈ ps, p.1 < r.start ∨ r.stop ≤ p.1) : r.restrict ps = [] := by
  rw [restrict, List.map_eq_nil_iff, List.filter_eq_nil_iff]
  intro p hp
  have := h p hp
  simp only [Bool.and_eq_true, decide_eq_true_eq]
  omega

/-- What a scan lists at its own stretch is what it lists. -/
theorem Stretch.restrict_selected (s : ByteState) (i : Nat) (bytes : List UInt8) :
    (Stretch.mk i (i + bytes.length)).restrict (selected s i bytes) = selected s 0 bytes := by
  have hall : ∀ p ∈ selected s i bytes,
      (decide (i ≤ p.1) && decide (p.1 < i + bytes.length)) = true := by
    intro p hp
    have := offset_of_mem_selected hp
    simp only [Bool.and_eq_true, decide_eq_true_eq]
    omega
  have hshift : selected s i bytes = (selected s 0 bytes).map fun p => (p.1 + i, p.2) := by
    have := selected_shift s 0 i bytes
    rwa [Nat.zero_add] at this
  have hback : ((fun p : Nat × UInt8 => (p.1 - i, p.2)) ∘ fun p => (p.1 + i, p.2)) = id := by
    funext p
    simp
  rw [restrict, List.filter_eq_self.2 hall, hshift, List.map_map, hback, List.map_id]

/-- Bytes cut out of a line at a stretch.  Both ends are where characters begin, so the cut can be
    made, and what is code in the bytes alone is what is code at the stretch of the line. -/
structure IsPiece (line : List UInt8) (r : Stretch) (piece : List UInt8) : Prop where
  ordered : r.start ≤ r.stop
  start : isBoundary line r.start = true
  stop : isBoundary line r.stop = true
  bytes : piece = (line.take r.stop).drop r.start
  code : codeBytes piece = r.restrict (codeBytes line)

/-- A text stands in a line, at a stretch of its bytes, and in front of it the scan is in code. -/
def CutAt (line : Text) (r : Stretch) (piece : Text) : Prop :=
  ∃ lead tail, line = lead ++ (piece ++ tail) ∧ ScanState.code.run lead = .code
    ∧ r = ⟨(utf8 lead).length, (utf8 (lead ++ piece)).length⟩

theorem cutAt_append (lead : Text) (h : ScanState.code.run lead = .code) (piece tail : Text) :
    CutAt (lead ++ (piece ++ tail)) ⟨(utf8 lead).length, (utf8 (lead ++ piece)).length⟩ piece :=
  ⟨lead, tail, rfl, h, rfl⟩

/-- **What stands behind a place in code is a piece, wherever it ends.** -/
theorem CutAt.isPiece {line piece : Text} {r : Stretch} (h : CutAt line r piece) :
    IsPiece (utf8 line) r (utf8 piece) := by
  obtain ⟨lead, tail, rfl, hlead, rfl⟩ := h
  have hlength : (utf8 (lead ++ piece)).length = (utf8 lead).length + (utf8 piece).length := by
    rw [utf8_append, List.length_append]
  refine ⟨?_, isBoundary_append lead _, ?_, ?_, ?_⟩
  · show (utf8 lead).length ≤ (utf8 (lead ++ piece)).length
    omega
  · rw [← List.append_assoc]
    exact isBoundary_append (lead ++ piece) tail
  · show utf8 piece = ((utf8 (lead ++ (piece ++ tail))).take (utf8 (lead ++ piece)).length).drop
      (utf8 lead).length
    rw [← List.append_assoc, utf8_append (lead ++ piece), List.take_left, utf8_append,
      List.drop_left]
  · -- the scan of the line in front of the piece, in it and behind it
    have hrun : ({} : ByteState).run (utf8 lead) = {} := by
      have hstate := run_utf8 ScanState.opened_code lead
      rwa [hlead] at hstate
    have hcut : codeBytes (utf8 (lead ++ (piece ++ tail))) = selected {} 0 (utf8 lead)
        ++ (selected {} (utf8 lead).length (utf8 piece)
          ++ selected (({} : ByteState).run (utf8 piece))
            ((utf8 lead).length + (utf8 piece).length) (utf8 tail)) := by
      rw [codeBytes, utf8_append, utf8_append, selected_append, hrun, selected_append, Nat.zero_add]
    rw [hlength, hcut, Stretch.restrict_append, Stretch.restrict_append,
      Stretch.restrict_selected, Stretch.restrict_outside fun p hp => .inl ?_,
      Stretch.restrict_outside fun p hp => .inr ?_, List.nil_append, List.append_nil]
    · rfl
    · exact (offset_of_mem_selected hp).1
    · have hbefore := (offset_of_mem_selected hp).2
      rwa [Nat.zero_add] at hbefore

end GoTemplate.Go
