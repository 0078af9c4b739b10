/-
  Sizes as a reader wants them: `512 B`, `2.0 kB`, `3.5 MB`.

  The quotient is the one of binary floating point with 53 significant bits: the count is rounded
  to such a number, then the quotient is, both to nearest with ties to even; the tenths shown are
  those of the rounded quotient, again to nearest with ties to even.  All of it is exact
  arithmetic on natural numbers.
-/
import GoTemplate.Text
import GoTemplate.Text.Numeral

namespace GoTemplate

/-- `num / den` to the nearest natural number, a half to the even neighbour. -/
def roundDiv (num den : Nat) : Nat :=
  let q := num / den
  let r := num % den
  if 2 * r < den then q
  else if den < 2 * r then q + 1
  else q + q % 2

/-- The nearest number with 53 significant bits to `num / den ≥ 1`, as a fraction whose
    denominator is a power of two. -/
def toSignificant (num den : Nat) : Nat × Nat :=
  let scale := Nat.log2 (num / den)
  if scale ≤ 52 then (roundDiv (num * Nat.pow 2 (52 - scale)) den, Nat.pow 2 (52 - scale))
  else (roundDiv num (den * Nat.pow 2 (scale - 52)) * Nat.pow 2 (scale - 52), 1)

/-- `n / unit` with one decimal. -/
def scaled (n unit : Nat) : Text :=
  let (num, den) := toSignificant n 1
  let (num, den) := toSignificant num (den * unit)
  let tenths := roundDiv (num * 10) den
  decimal (tenths / 10) ++ '.' :: decimal (tenths % 10)

/-- A count of bytes with its unit. -/
def formatSize (bytes : Nat) : Text :=
  if 1000000 ≤ bytes then scaled bytes 1000000 ++ " MB".toList
  else if 1000 ≤ bytes then scaled bytes 1000 ++ " kB".toList
  else decimal bytes ++ " B".toList

example : formatSize 999 = "999 B".toList := by decide
example : formatSize 2048 = "2.0 kB".toList := by decide +kernel
example : formatSize 1250 = "1.2 kB".toList := by decide +kernel

end GoTemplate
