/-
  What a value may hold.

  A value that is passed over has integers of at most 128 bits.  A value that is kept as it is has
  integers of at most 64 bits, and a table in it may stand for a date: if the reserved key is the
  first of its keys in increasing order, then the value of that key must spell a date or a time,
  and the other keys do not count.
-/
import GoTemplate.Text
import GoTemplate.Toml.Value
import GoTemplate.Toml.Scalar

namespace GoTemplate.Toml

/-! ## Integers -/

/-- An integer of 64 bits with a sign. -/
def isWord (n : Int) : Bool := decide (-Int.pow 2 63 ≤ n ∧ n < Int.pow 2 63)

/-- An integer of 128 bits, with or without a sign. -/
def isDoubleWord (n : Int) : Bool := decide (-Int.pow 2 127 ≤ n ∧ n < Int.pow 2 128)

/-! ## Values passed over -/

mutual

/-- The value can be passed over. -/
def Value.isSkippable : Value → Bool
  | .integer n => isDoubleWord n
  | .array _ items => skippableItems items
  | .table _ entries => skippableEntries entries
  | _ => true
termination_by structural v => v

/-- The items of an array can be passed over. -/
def skippableItems : List Value → Bool
  | [] => true
  | v :: rest => v.isSkippable && skippableItems rest
termination_by structural vs => vs

/-- The entries of a table can be passed over. -/
def skippableEntries : List Entry → Bool
  | [] => true
  | .mk _ v :: rest => v.isSkippable && skippableEntries rest
termination_by structural es => es

end

/-! ## Values kept -/

/-- The reserved key of a table that stands for a date. -/
def dateKey : Text := "$__toml_private_datetime".toList

/-- The value of the reserved key, if that is the first key in increasing order. -/
def Table.date? (t : Table) : Option Value :=
  if t.any fun (.mk key _) => decide (key < dateKey) then none else t.find? dateKey

/-- The value is a string that spells a date or a time. -/
def Value.spellsDate : Value → Bool
  | .string s => isDateTime s
  | _ => false

mutual

/-- The value can be kept as it is. -/
def Value.isKeepable : Value → Bool
  | .integer n => isWord n
  | .array _ items => keepableItems items
  | .table _ entries =>
    match Table.date? entries with
    | some v => v.spellsDate
    | none => keepableEntries entries
  | _ => true
termination_by structural v => v

/-- The items of an array can be kept as they are. -/
def keepableItems : List Value → Bool
  | [] => true
  | v :: rest => v.isKeepable && keepableItems rest
termination_by structural vs => vs

/-- The entries of a table can be kept as they are. -/
def keepableEntries : List Entry → Bool
  | [] => true
  | .mk _ v :: rest => v.isKeepable && keepableEntries rest
termination_by structural es => es

end

example : (Value.table .inline [.mk "a".toList (.integer 1), .mk dateKey (.string "07:32".toList)]).isKeepable
    = true := by decide +kernel
example : (Value.table .inline [.mk "a".toList (.integer 1), .mk dateKey (.integer 1)]).isKeepable
    = false := by decide +kernel
example : (Value.table .inline [.mk "!".toList (.integer 1), .mk dateKey (.integer 1)]).isKeepable
    = true := by decide +kernel

end GoTemplate.Toml
