/-
  TOML values without parts: booleans, integers, floats, dates and times.

  They are words of letters, digits and a few signs; a word is one of them or an error.  A date
  may be followed by a blank and a time.
-/
import GoTemplate.Text
import GoTemplate.Text.Numeral
import GoTemplate.Toml.Value

namespace GoTemplate.Toml

/-! ## Numbers -/

/-- Digits with single underscores between them, without the underscores. -/
def grouped? (isDigit : Char → Bool) (t : Text) : Option Text :=
  let parts := t.splitOn '_'
  if parts.all fun p => !p.isEmpty && p.all isDigit then some parts.flatten else none

/-- Decimal digits without a superfluous zero in front. -/
def wholePart? (t : Text) : Option Text :=
  match grouped? Char.isDigit t with
  | some ('0' :: _ :: _) => none
  | ds => ds

/-- A sign and what follows it. -/
def splitSign : Text → Bool × Text
  | '-' :: t => (true, t)
  | '+' :: t => (false, t)
  | t => (false, t)

/-- A signed integer in decimal digits. -/
def decimalInteger? (word : Text) : Option Int :=
  let (negative, t) := splitSign word
  (wholePart? t).map fun ds => if negative then -(digitsValue ds : Int) else digitsValue ds

/-- An integer of a marked base, without a sign. -/
def basedInteger? : Text → Option Int
  | '0' :: 'x' :: t => digits 16 t
  | '0' :: 'o' :: t => digits 8 t
  | '0' :: 'b' :: t => digits 2 t
  | _ => none
where
  digits (base : Nat) (t : Text) : Option Int :=
    (grouped? (fun c => (hexDigit? c).any (· < base)) t).bind fun ds =>
      (baseValue? base ds).map Int.ofNat

/-- The exponent of a float: absent, or a mark, a sign and digits. -/
def exponent? : Text → Option Int
  | [] => some 0
  | e :: t =>
    if e = 'e' ∨ e = 'E' then
      let (negative, t) := splitSign t
      (grouped? Char.isDigit t).map fun ds => if negative then -(digitsValue ds : Int) else digitsValue ds
    else none

/-- A float in decimal digits that a double can hold: a fraction, an exponent, or both. -/
def isDecimalFloat (word : Text) : Bool :=
  let (_, t) := splitSign word
  let (whole, t) := t.span fun c => c != '.' && c != 'e' && c != 'E'
  let (frac?, t) : Option Text × Text := match t with
    | '.' :: t => let (f, t) := t.span fun c => c != 'e' && c != 'E'; (grouped? Char.isDigit f, t)
    | t => (some [], t)
  match wholePart? whole, frac?, exponent? t with
  | some whole, some frac, some e =>
    !(frac.isEmpty && t.isEmpty) && isFinite (digitsValue (whole ++ frac)) (e - frac.length)
  | _, _, _ => false

/-- A float: decimal, infinite, or not a number. -/
def isFloat (word : Text) : Bool :=
  let (_, t) := splitSign word
  t == "inf".toList || t == "nan".toList || isDecimalFloat word

/-! ## Dates and times -/

/-- A number of exactly `n` digits, and what follows. -/
def fixed? (n : Nat) (t : Text) : Option (Nat × Text) :=
  let ds := t.take n
  if ds.length = n ∧ ds.all Char.isDigit then some (digitsValue ds, t.drop n) else none

/-- The days of a month in the Gregorian calendar. -/
def daysInMonth (year month : Nat) : Nat :=
  if month = 2 then
    if year % 4 = 0 ∧ (year % 100 ≠ 0 ∨ year % 400 = 0) then 29 else 28
  else if month = 4 ∨ month = 6 ∨ month = 9 ∨ month = 11 then 30
  else 31

/-- A date that exists, and what follows. -/
def date? (t : Text) : Option Text := do
  let (year, t) ← fixed? 4 t
  let (month, t) ← fixed? 2 (← after? ['-'] t)
  let (day, t) ← fixed? 2 (← after? ['-'] t)
  if 1 ≤ month ∧ month ≤ 12 ∧ 1 ≤ day ∧ day ≤ daysInMonth year month then some t else none

/-- A fraction of a second, if there is one, and what follows. -/
def fraction? (t : Text) : Option Text :=
  match t with
  | '.' :: r => match r.span Char.isDigit with
    | ([], _) => none
    | (_, rest) => some rest
  | _ => some t

/-- A time of day, with or without seconds, and what follows. -/
def time? (t : Text) : Option Text := do
  let (hour, t) ← fixed? 2 t
  let (minute, t) ← fixed? 2 (← after? [':'] t)
  let t ← match t with
    | ':' :: r => do
      let (second, r) ← fixed? 2 r
      if second ≤ 60 then fraction? r else none
    | _ => some t
  if hour ≤ 23 ∧ minute ≤ 59 then some t else none

/-- An offset from universal time that is the whole text. -/
def isOffset (t : Text) : Bool :=
  match t with
  | ['Z'] | ['z'] => true
  | c :: t =>
    (c == '+' || c == '-') && (do
      let (hour, t) ← fixed? 2 t
      let (minute, t) ← fixed? 2 (← after? [':'] t)
      some (hour ≤ 23 && minute ≤ 59 && t.isEmpty)).getD false
  | [] => false

/-- A date, a time, or both with or without an offset. -/
def isDateTime (word : Text) : Bool :=
  match date? word with
  | some [] => true
  | some (c :: t) =>
    (c == 'T' || c == 't' || c == ' ') && (time? t).any fun rest => rest.isEmpty || isOffset rest
  | none => time? word == some []

/-! ## Words -/

/-- A character of a word. -/
def isWordChar (c : Char) : Bool :=
  c.isAlphanum || c == '_' || c == '+' || c == '-' || c == '.' || c == ':'

/-- A word, a date with the time after a blank included, and what follows. -/
def splitWord (t : Text) : Text × Text :=
  let (word, rest) := t.span isWordChar
  match rest with
  | ' ' :: d :: _ =>
    if date? word == some [] && d.isDigit then
      let (time, rest) := (rest.drop 1).span isWordChar
      (word ++ ' ' :: time, rest)
    else (word, rest)
  | _ => (word, rest)

/-- The value of a word. -/
def scalar? (word : Text) : Option Value :=
  if word = "true".toList then some (.boolean true)
  else if word = "false".toList then some (.boolean false)
  else match decimalInteger? word <|> basedInteger? word with
    | some n => some (.integer n)
    | none =>
      if isFloat word then some (.float word)
      else if isDateTime word then some (.dateTime word)
      else none

example : decimalInteger? "-1_000".toList = some (-1000) := by decide
example : basedInteger? "0x1F".toList = some 31 := by decide
example : isFloat "6.26e-34".toList = true := by decide +kernel
example : isDateTime "2021-02-29".toList = false := by decide
example : splitWord "1979-05-27 07:32:00Z # x".toList
    = ("1979-05-27 07:32:00Z".toList, " # x".toList) := by decide

end GoTemplate.Toml
