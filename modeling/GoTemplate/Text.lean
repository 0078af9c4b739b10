/-
  Text as a list of characters.

  Everything the library reads or writes is a `Text`; `String` appears only at the outermost
  layer, where a file or a terminal is touched.  A list makes the cuts of this domain plain
  recursions: what stands before a mark, what is left after a keyword, the lines of a body.

  * white space is Unicode's `White_Space`, so trimming removes a no-break space too;
  * `lineSpans` cuts a text into lines WITH their line feeds: nothing is lost
    (`flatten_lineSpans`);
  * `lines` is the reading of the same cut without the line ends, where a carriage return goes
    only if a line feed follows it.
-/

namespace GoTemplate

/-- Text is a list of Unicode scalar values. -/
abbrev Text := List Char

/-! ## White space -/

/-- White space in the sense of Unicode's `White_Space` property. -/
def isBlank (c : Char) : Bool :=
  let n := c.toNat
  (9 ≤ n && n ≤ 13) || n == 0x20 || n == 0x85 || n == 0xA0 || n == 0x1680
    || (0x2000 ≤ n && n ≤ 0x200A) || n == 0x2028 || n == 0x2029 || n == 0x202F || n == 0x205F
    || n == 0x3000

/-- Drop the longest run of characters at the END that satisfy `p`. -/
def dropEndWhile (p : Char → Bool) (t : Text) : Text := (t.reverse.dropWhile p).reverse

/-- Drop leading white space. -/
def trimStart (t : Text) : Text := t.dropWhile isBlank

/-- Drop trailing white space. -/
def trimEnd (t : Text) : Text := dropEndWhile isBlank t

/-- Drop white space on both sides. -/
def trim (t : Text) : Text := trimEnd (trimStart t)

/-- Drop every double quote on both sides. -/
def trimQuotes (t : Text) : Text := dropEndWhile (· == '"') (t.dropWhile (· == '"'))

/-! ## Heads, tails and cuts -/

/-- What follows `lead`, if the text starts with it. -/
def after? : Text → Text → Option Text
  | [], t => some t
  | _ :: _, [] => none
  | a :: lead, c :: t => if a = c then after? lead t else none

/-- What precedes `tail`, if the text ends with it. -/
def before? (tail t : Text) : Option Text := (after? tail.reverse t.reverse).map List.reverse

/-- Cut at the LAST occurrence of `mark`, which belongs to neither side. -/
def cutLast? (mark : Char) (t : Text) : Option (Text × Text) :=
  match t.reverse.dropWhile (· != mark) with
  | [] => none
  | _ :: front => some (front.reverse, (t.reverse.takeWhile (· != mark)).reverse)

/-- What follows the last `mark`; the whole text if there is none. -/
def afterLast (mark : Char) (t : Text) : Text := (t.reverse.takeWhile (· != mark)).reverse

/-! ## Lines -/

/-- The lines of a text, each with its line feed; the last one may lack it. -/
def lineSpans : Text → List Text
  | [] => []
  | c :: t =>
    if c = '\n' then [c] :: lineSpans t
    else match lineSpans t with
      | [] => [[c]]
      | l :: ls => (c :: l) :: ls

/-- A line without its end: a line feed goes, and a carriage return right before it. -/
def chomp (span : Text) : Text :=
  match before? ['\n'] span with
  | none => span
  | some l => (before? ['\r'] l).getD l

/-- The lines of a text without their ends. -/
def lines (t : Text) : List Text := (lineSpans t).map chomp

/-- Cutting into lines loses nothing. -/
theorem flatten_lineSpans (t : Text) : (lineSpans t).flatten = t := by
  induction t with
  | nil => rfl
  | cons c t ih =>
    rw [lineSpans]
    split
    · simp [ih]
    · split
      · next h => rw [h] at ih; simpa using ih
      · next l ls h => rw [h] at ih; simpa using ih

/-! ## Identifiers of ASCII letters -/

/-- A letter or underscore of ASCII, the start of an identifier. -/
def isIdentStart (c : Char) : Bool := c.isAlpha || c == '_'

/-- A letter, digit or underscore of ASCII. -/
def isIdentRest (c : Char) : Bool := c.isAlphanum || c == '_'

/-- An ASCII identifier: a letter or underscore, then letters, digits and underscores. -/
def isIdentifier : Text → Bool
  | [] => false
  | c :: t => isIdentStart c && t.all isIdentRest

/-! ## Results -/

/-- Two results can be compared, so closed examples of readers can be decided. -/
instance instDecidableEqResult {ε α : Type} [DecidableEq ε] [DecidableEq α] :
    DecidableEq (Except ε α)
  | .ok a, .ok b => decidable_of_iff (a = b) (by simp)
  | .error a, .error b => decidable_of_iff (a = b) (by simp)
  | .ok _, .error _ => isFalse (by simp)
  | .error _, .ok _ => isFalse (by simp)

example : trim "  a b \n".toList = "a b".toList := by decide
example : lines "a\r\nb\n\nc\r".toList = ["a".toList, "b".toList, [], "c\r".toList] := by decide
example : cutLast? '/' "a/b/c".toList = some ("a/b".toList, "c".toList) := by decide

end GoTemplate
