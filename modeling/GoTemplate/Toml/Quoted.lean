/-
  The four string forms of TOML.

  Basic strings have escapes, literal ones have none; both come on one line or, with three quotes,
  on many.  A newline right after the three opening quotes does not count, every other one is kept
  as it is written, up to two quotes may stand right before the three closing ones, and in a basic
  string a backslash at the end of a line joins it to the next text.
-/
import GoTemplate.Text
import GoTemplate.Text.Numeral

namespace GoTemplate.Toml

/-- A character that may stand in a string or a comment: any but controls, a tab excepted. -/
def isAllowed (c : Char) : Bool := c == '\t' || (0x20 ≤ c.toNat && c.toNat != 0x7f)

/-- A blank of TOML. -/
def isSpace (c : Char) : Bool := c == ' ' || c == '\t'

/-- A character given by hexadecimal digits, if they are the number of one. -/
def codePoint? (ds : Text) : Option Char :=
  (baseValue? 16 ds).bind fun n => if n.isValidChar then some (Char.ofNat n) else none

/-- The character a two-character escape stands for. -/
def simpleEscape? : Char → Option Char
  | 'b' => some '\x08'
  | 't' => some '\t'
  | 'n' => some '\n'
  | 'f' => some '\x0c'
  | 'r' => some '\r'
  | 'e' => some '\x1b'
  | '"' => some '"'
  | '\\' => some '\\'
  | _ => none

/-- After a backslash: the character that is meant, and what follows. -/
def escape? : Text → Option (Char × Text)
  | 'x' :: t => digits 2 t
  | 'u' :: t => digits 4 t
  | 'U' :: t => digits 8 t
  | c :: t => (simpleEscape? c).map (·, t)
  | [] => none
where
  digits (n : Nat) (t : Text) : Option (Char × Text) :=
    if (t.take n).length = n then (codePoint? (t.take n)).map (·, t.drop n) else none

/-- A line end, and what follows. -/
def newline? : Text → Option Text
  | '\n' :: t => some t
  | '\r' :: '\n' :: t => some t
  | _ => none

/-- What follows the blanks and newlines at the start. -/
def dropBlankLines : Text → Text
  | '\r' :: '\n' :: t => dropBlankLines t
  | c :: t => if isSpace c || c == '\n' then dropBlankLines t else c :: t
  | [] => []

/-- After a backslash at a line end: what follows the blanks and newlines. -/
def joinLine? (t : Text) : Option Text := (newline? (t.dropWhile isSpace)).map dropBlankLines

/-- After three closing quotes have been reached: how many of the quotes are text, and what
    follows the closing ones. -/
def closing? (quote : Char) (t : Text) : Option (Nat × Text) :=
  let n := (t.takeWhile (· == quote)).length
  if n < 3 then none
  else
    let extra := min (n - 3) 2
    some (extra, t.drop (extra + 3))

/-- A string on one line up to its closing quote, in at most `n` steps. -/
def lineString (quote : Char) (escapes : Bool) : Nat → Text → Option (Text × Text)
  | 0, _ | _, [] => none
  | n + 1, c :: t =>
    if c = quote then some ([], t)
    else if escapes ∧ c = '\\' then do
      let (c, t) ← escape? t
      let (s, rest) ← lineString quote escapes n t
      return (c :: s, rest)
    else if isAllowed c then (lineString quote escapes n t).map fun (s, rest) => (c :: s, rest)
    else none

/-- A string over several lines up to its closing quotes, in at most `n` steps. -/
def blockString (quote : Char) (escapes : Bool) : Nat → Text → Option (Text × Text)
  | 0, _ | _, [] => none
  | n + 1, c :: t =>
    match closing? quote (c :: t) with
    | some (extra, rest) => some (List.replicate extra quote, rest)
    | none =>
      if escapes ∧ c = '\\' then
        match joinLine? t with
        | some t => blockString quote escapes n t
        | none => do
          let (c, t) ← escape? t
          let (s, rest) ← blockString quote escapes n t
          return (c :: s, rest)
      else if isAllowed c || (newline? (c :: t)).isSome then
        (blockString quote escapes n t).map fun (s, rest) => (c :: s, rest)
      else none

/-- A string on one line, from its opening quote on. -/
def simpleString? (t : Text) : Option (Text × Text) :=
  match t with
  | '"' :: r => lineString '"' true (r.length + 1) r
  | '\'' :: r => lineString '\'' false (r.length + 1) r
  | _ => none

/-- A string of any form. -/
def string? (t : Text) : Option (Text × Text) :=
  match t with
  | '"' :: '"' :: '"' :: r => blockString '"' true (r.length + 1) ((newline? r).getD r)
  | '\'' :: '\'' :: '\'' :: r => blockString '\'' false (r.length + 1) ((newline? r).getD r)
  | _ => simpleString? t

example : string? "\"a\\x41\\u00e9\" z".toList = some ("aAé".toList, " z".toList) := by decide +kernel
example : string? "'''\na''''' z".toList = some ("a''".toList, " z".toList) := by decide +kernel
example : string? "\"\"\"a\\  \n  b\"\"\"".toList = some ("ab".toList, []) := by decide +kernel
example : string? "\"\\x\"".toList = none := by decide +kernel

end GoTemplate.Toml
