/-
  The order of texts and the order of their bytes.

  Texts are compared character by character here, and byte by byte in UTF-8 where bytes are at hand.
  The order is the same (`utf8_lt_of_lt`).  A code is a LEAD byte and trailing bytes; the trailing
  bytes are the last digits of the code point in base 64, highest first, and the lead byte tells how
  many there are.  So a greater code point has a greater lead byte, or the same one and then greater
  digits (`leadByte_lt_or`), and the first byte that differs decides whatever stands behind
  (`encode_append_lt`).
-/
import GoTemplate.Text
import Mathlib.Algebra.Group.Nat.Defs
import Mathlib.Data.Char
import Mathlib.Data.List.Lex

namespace GoTemplate

/-- The bytes of a text in UTF-8. -/
def utf8 (t : Text) : List UInt8 := t.flatMap String.utf8EncodeChar

theorem utf8_cons (c : Char) (t : Text) : utf8 (c :: t) = String.utf8EncodeChar c ++ utf8 t :=
  List.flatMap_cons

/-! ## Bytes -/

/-- Bytes are compared as the numbers they hold, and what stands behind equal ones decides. -/
theorem byte_cons_lt {a b : Nat} {x y : List UInt8} (hb : b < 256)
    (h : a < b ∨ a = b ∧ x < y) : UInt8.ofNat a :: x < UInt8.ofNat b :: y := by
  rw [List.cons_lt_cons_iff]
  rcases h with hab | ⟨rfl, hxy⟩
  · left
    have ha : a < UInt8.size := Nat.lt_trans hab hb
    rwa [UInt8.lt_iff_toNat_lt, UInt8.toNat_ofNat_of_lt' ha, UInt8.toNat_ofNat_of_lt' hb]
  · exact .inr ⟨rfl, hxy⟩

/-- The last `k` digits of a number in base 64, as trailing bytes. -/
def trailBytes : Nat → Nat → List UInt8
  | 0, _ => []
  | k + 1, v => UInt8.ofNat (v / 64 ^ k % 64 + 128) :: trailBytes k v

theorem trailBytes_append_lt {k m n : Nat} (h : m % 64 ^ k < n % 64 ^ k) (x y : List UInt8) :
    trailBytes k m ++ x < trailBytes k n ++ y := by
  induction k with
  | zero => omega
  | succ k ih =>
    rw [Nat.pow_succ, Nat.mod_mul, Nat.mod_mul] at h
    refine byte_cons_lt (by omega) ?_
    rcases Nat.lt_trichotomy (m / 64 ^ k % 64) (n / 64 ^ k % 64) with hlt | heq | hgt
    · exact .inl (by omega)
    · rw [heq] at h
      exact .inr ⟨by omega, ih (by omega)⟩
    · -- a greater first digit outweighs all that follow
      have hmul : 64 ^ k * (n / 64 ^ k % 64 + 1) ≤ 64 ^ k * (m / 64 ^ k % 64) :=
        Nat.mul_le_mul_left _ hgt
      have hmod : n % 64 ^ k < 64 ^ k := Nat.mod_lt n (Nat.pow_pos (by omega))
      rw [Nat.mul_succ] at hmul
      omega

/-- The number of trailing bytes of a code point. -/
def trailCount (v : Nat) : Nat :=
  if v ≤ 127 then 0 else if v ≤ 2047 then 1 else if v ≤ 65535 then 2 else 3

/-- The lead byte of a code point. -/
def leadByte (v : Nat) : Nat :=
  if v ≤ 127 then v else if v ≤ 2047 then v / 64 + 192
  else if v ≤ 65535 then v / 4096 + 224 else v / 262144 + 240

theorem leadByte_lt_or {m n : Nat} (h : m < n) (hn : n < 0x110000) : leadByte n < 256 ∧
    (leadByte m < leadByte n ∨ leadByte m = leadByte n ∧ trailCount m = trailCount n
      ∧ m % 64 ^ trailCount n < n % 64 ^ trailCount n) := by
  rw [leadByte, leadByte, trailCount, trailCount]
  split_ifs <;> omega

/-! ## Characters and texts -/

theorem codePoint_lt (c : Char) : c.val.toNat < 0x110000 := by
  have hvalid := c.valid
  rw [UInt32.isValidChar, Nat.isValidChar] at hvalid
  omega

theorem encode_eq (c : Char) : String.utf8EncodeChar c
    = UInt8.ofNat (leadByte c.val.toNat) :: trailBytes (trailCount c.val.toNat) c.val.toNat := by
  have hmax := codePoint_lt c
  rw [String.utf8EncodeChar, leadByte, trailCount]
  generalize c.val.toNat = v at hmax
  split_ifs with h₁ h₂ h₃
  · rfl
  · rw [Nat.mod_eq_of_lt (by omega : v / 64 < 32)]
    simp [trailBytes]
  · rw [Nat.mod_eq_of_lt (by omega : v / 4096 < 16)]
    simp [trailBytes]
  · rw [Nat.mod_eq_of_lt (by omega : v / 262144 < 8)]
    simp [trailBytes]

/-- The codes of two characters are ordered, whatever stands behind them. -/
theorem encode_append_lt {c d : Char} (h : c < d) (x y : List UInt8) :
    String.utf8EncodeChar c ++ x < String.utf8EncodeChar d ++ y := by
  obtain ⟨hbyte, hlead⟩ := leadByte_lt_or (m := c.val.toNat) h (codePoint_lt d)
  rw [encode_eq, encode_eq]
  refine byte_cons_lt hbyte ?_
  rcases hlead with hlt | ⟨heq, hcount, hdigits⟩
  · exact .inl hlt
  · rw [hcount]
    exact .inr ⟨heq, trailBytes_append_lt hdigits x y⟩

/-- **A smaller text has smaller bytes.** -/
theorem utf8_lt_of_lt {s t : Text} (h : s < t) : utf8 s < utf8 t := by
  induction s generalizing t with
  | nil =>
    cases t with
    | nil => exact absurd h (lt_irrefl _)
    | cons d t =>
      rw [utf8_cons, encode_eq]
      exact List.nil_lt_cons _ _
  | cons c s ih =>
    cases t with
    | nil => exact absurd h (List.not_lt_nil _)
    | cons d t =>
      rw [utf8_cons, utf8_cons]
      rcases List.cons_lt_cons_iff.1 h with hcd | ⟨rfl, hst⟩
      · exact encode_append_lt hcd _ _
      · exact List.append_left_lt (ih hst)

end GoTemplate
