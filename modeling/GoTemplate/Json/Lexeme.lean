/-
  The lexemes of JSON text.

  Lexing never fails: where no lexeme can be read, the list ends with `bad`, and it is the reader
  who stumbles over it, or over an earlier mistake of another kind.  Two defects stay inside a
  lexeme, because a reader that only skips a value does not mind them: a string whose escapes name
  half a surrogate pair has no text, and a number beyond the largest double is not finite.
-/
import GoTemplate.Text
import GoTemplate.Text.Numeral

namespace GoTemplate.Json

/-- A lexeme of JSON text. -/
inductive Lexeme where
  | openObject
  | closeObject
  | openArray
  | closeArray
  | comma
  | colon
  | null
  | bool (b : Bool)
  /-- A string; no text if its escapes leave half a surrogate pair. -/
  | string (text? : Option Text)
  /-- A number as spelled, and whether a double can hold its magnitude. -/
  | number (literal : Text) (finite : Bool)
  /-- Something that is no lexeme. -/
  | bad
deriving DecidableEq

/-! ## Strings -/

/-- What a string is made of: plain characters and sixteen-bit units given by escapes. -/
inductive StringUnit where
  | char (c : Char)
  | unit (n : Nat)
deriving DecidableEq

/-- The character a two-character escape stands for. -/
def simpleEscape? : Char → Option Char
  | '"' => some '"'
  | '\\' => some '\\'
  | '/' => some '/'
  | 'b' => some '\x08'
  | 'f' => some '\x0c'
  | 'n' => some '\n'
  | 'r' => some '\r'
  | 't' => some '\t'
  | _ => none

/-- The units of a string up to its closing quote, and what follows. -/
def stringUnits? : Text → Option (List StringUnit × Text)
  | [] => none
  | '"' :: t => some ([], t)
  | '\\' :: 'u' :: a :: b :: c :: d :: t => do
    let n ← baseValue? 16 [a, b, c, d]
    let (us, rest) ← stringUnits? t
    return (.unit n :: us, rest)
  | '\\' :: e :: t => do
    let c ← simpleEscape? e
    let (us, rest) ← stringUnits? t
    return (.char c :: us, rest)
  | c :: t => do
    if c = '\\' ∨ c.toNat < 0x20 then none
    let (us, rest) ← stringUnits? t
    return (.char c :: us, rest)

/-- The text of units: a high surrogate must be followed by a low one, and a low one stands
    nowhere else. -/
def unitsText? : List StringUnit → Option Text
  | [] => some []
  | .char c :: us => (unitsText? us).map (c :: ·)
  | .unit n :: us =>
    if 0xD800 ≤ n ∧ n < 0xDC00 then
      match us with
      | .unit m :: us' =>
        if 0xDC00 ≤ m ∧ m < 0xE000 then
          (unitsText? us').map (Char.ofNat (0x10000 + (n - 0xD800) * 0x400 + (m - 0xDC00)) :: ·)
        else none
      | _ => none
    else if 0xDC00 ≤ n ∧ n < 0xE000 then none
    else (unitsText? us).map (Char.ofNat n :: ·)

/-! ## Numbers -/

/-- One or more decimal digits and what follows. -/
def digits? (t : Text) : Option (Text × Text) :=
  match t.span Char.isDigit with
  | ([], _) => none
  | p => some p

/-- The exponent part of a number: its spelling, its value, and what follows. -/
def exponent? : Text → Option (Text × Int × Text)
  | e :: t =>
    if e = 'e' ∨ e = 'E' then
      let (sign, t) : Text × Text := match t with
        | '+' :: r => (['+'], r)
        | '-' :: r => (['-'], r)
        | _ => ([], t)
      (digits? t).map fun (ds, rest) =>
        let n : Int := digitsValue ds
        (e :: (sign ++ ds), if sign = ['-'] then -n else n, rest)
    else some ([], 0, e :: t)
  | [] => some ([], 0, [])

/-- A number: no superfluous zero in front, digits on both sides of a point. -/
def number? (t : Text) : Option (Lexeme × Text) := do
  let (sign, t) : Text × Text := match t with
    | '-' :: r => (['-'], r)
    | _ => ([], t)
  let (int, t) ← digits? t
  if int.length > 1 ∧ int.head? = some '0' then none
  let (frac, t) ← match t with
    | '.' :: r => digits? r
    | _ => some ([], t)
  let (exp, scale, t) ← exponent? t
  let point : Text := if frac.isEmpty then [] else ['.']
  return (.number (sign ++ int ++ point ++ frac ++ exp)
    (isFinite (digitsValue (int ++ frac)) (scale - frac.length)), t)

/-! ## Texts -/

/-- The lexeme at the start of a text, and what follows. -/
def lexeme? (t : Text) : Option (Lexeme × Text) :=
  match t with
  | [] => none
  | '\x7b' :: r => some (.openObject, r)
  | '\x7d' :: r => some (.closeObject, r)
  | '[' :: r => some (.openArray, r)
  | ']' :: r => some (.closeArray, r)
  | ',' :: r => some (.comma, r)
  | ':' :: r => some (.colon, r)
  | '"' :: r => (stringUnits? r).map fun (us, rest) => (.string (unitsText? us), rest)
  | 'n' :: _ => (after? "null".toList t).map (.null, ·)
  | 't' :: _ => (after? "true".toList t).map (.bool true, ·)
  | 'f' :: _ => (after? "false".toList t).map (.bool false, ·)
  | _ => number? t

/-- The white space of JSON. -/
def isSpace (c : Char) : Bool := c == ' ' || c == '\n' || c == '\t' || c == '\r'

/-- At most `n` lexemes of a text. -/
def lexUpTo : Nat → Text → List Lexeme
  | 0, _ => []
  | n + 1, t =>
    match t.dropWhile isSpace with
    | [] => []
    | t => match lexeme? t with
      | none => [.bad]
      | some (x, rest) => x :: lexUpTo n rest

/-- The lexemes of a text.  Each takes at least one character, so its length bounds their
    number. -/
def lex (t : Text) : List Lexeme := lexUpTo t.length t

example : lex "[1, \"\\ud83d\\ude00\"]".toList
    = [.openArray, .number "1".toList true, .comma, .string (some "😀".toList), .closeArray] := by
  decide +kernel
example : lex "\"\\ud83d\" 1e400 nul".toList
    = [.string none, .number "1e400".toList false, .bad] := by decide +kernel

end GoTemplate.Json
