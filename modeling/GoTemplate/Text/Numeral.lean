/-
  Numerals: numbers as digits and back, and the magnitudes a double can hold.
-/
import GoTemplate.Text

namespace GoTemplate

/-! ## Writing -/

/-- Decimal digits of a number. -/
def decimal (n : Nat) : Text := Nat.toDigits 10 n

/-- Lower-case hexadecimal digits of a number, filled with zeros to at least `width`. -/
def hexadecimal (width n : Nat) : Text :=
  let ds := Nat.toDigits 16 n
  List.replicate (width - ds.length) '0' ++ ds

/-! ## Reading -/

/-- The value of a hexadecimal digit of either case. -/
def hexDigit? (c : Char) : Option Nat :=
  if '0' ≤ c ∧ c ≤ '9' then some (c.toNat - '0'.toNat)
  else if 'a' ≤ c ∧ c ≤ 'f' then some (c.toNat - 'a'.toNat + 10)
  else if 'A' ≤ c ∧ c ≤ 'F' then some (c.toNat - 'A'.toNat + 10)
  else none

/-- The value of digits of a base up to sixteen, the first the highest. -/
def baseValue? (base : Nat) (ds : Text) : Option Nat :=
  ds.foldlM (fun n c => (hexDigit? c).bind fun d => if d < base then some (base * n + d) else none) 0

/-- The value of decimal digits. -/
def digitsValue (ds : Text) : Nat := (baseValue? 10 ds).getD 0

/-! ## Doubles -/

/-- The least magnitude that rounds beyond every double. -/
def doubleLimit : Nat := Nat.pow 2 1024 - Nat.pow 2 970

/-- Whether a double can hold `n · 10 ^ scale`.  Magnitudes far from the limit are told apart by
    their number of digits alone. -/
def isFinite (n : Nat) (scale : Int) : Bool :=
  let size : Int := (decimal n).length + scale
  n == 0 || size < 300
    || (size < 400 &&
      (if 0 ≤ scale then decide (n * Nat.pow 10 scale.toNat < doubleLimit)
       else decide (n < doubleLimit * Nat.pow 10 (-scale).toNat)))

example : hexadecimal 4 0x85 = "0085".toList := by decide
example : baseValue? 8 "17".toList = some 15 := by decide
example : isFinite 17976931348623157 292 = true := by decide +kernel
example : isFinite 17976931348623159 292 = false := by decide +kernel

end GoTemplate
