/-
  Classes of characters given by their boundaries.

  A class is the increasing list of the code points at which membership FLIPS, starting outside:
  `[a, b, c, d]` is `a ≤ n < b` or `c ≤ n < d`.  A code point is a member when an odd number of
  flips lie at or below it.
-/

namespace GoTemplate

/-- A class of characters, as the increasing list of code points where membership flips. -/
structure CharClass where
  flips : List Nat

/-- Membership: an odd number of flips at or below the character. -/
def CharClass.holds (k : CharClass) (c : Char) : Bool :=
  (k.flips.takeWhile (· ≤ c.toNat)).length % 2 == 1

example : (CharClass.mk [0x41, 0x5b, 0x61, 0x7b]).holds 'Z' = true := by decide
example : (CharClass.mk [0x41, 0x5b, 0x61, 0x7b]).holds '[' = false := by decide

end GoTemplate
