/-
  TOML documents.

  A document is a sequence of lines: headers, assignments, comments and empty ones.  Values may
  contain arrays and inline tables, which may run over several lines and carry comments, in an
  inline table also on both sides of the equals sign.  They nest at most 80 deep, and a path has at
  most 80 keys.  Any mistake makes the whole document unreadable.
-/
import GoTemplate.Text
import GoTemplate.Toml.Value
import GoTemplate.Toml.Scalar
import GoTemplate.Toml.Quoted

namespace GoTemplate.Toml

/-! ## Blanks, comments, line ends -/

/-- Skip blanks. -/
def skipSpace (t : Text) : Text := t.dropWhile isSpace

/-- Skip blanks, newlines and comments; `none` if a comment holds a control character. -/
def skipFiller (inComment : Bool) : Text → Option Text
  | [] => some []
  | '\n' :: t => skipFiller false t
  | '\r' :: '\n' :: t => skipFiller false t
  | c :: t =>
    if inComment then if isAllowed c then skipFiller true t else none
    else if isSpace c then skipFiller false t
    else if c = '#' then skipFiller true t
    else some (c :: t)

/-- The end of a line: blanks, perhaps a comment, and a newline or the end of the text. -/
def lineEnd? (t : Text) : Option Text :=
  let t := match skipSpace t with
    | '#' :: r => r.dropWhile isAllowed
    | r => r
  if t.isEmpty then some [] else newline? t

/-! ## Keys -/

/-- A character of a key without quotes. -/
def isBareKeyChar (c : Char) : Bool := c.isAlphanum || c == '_' || c == '-'

/-- A key, bare or quoted, and what follows. -/
def key? (t : Text) : Option (Text × Text) :=
  match t.span isBareKeyChar with
  | ([], _) => simpleString? t
  | p => some p

/-- The deepest nesting of arrays and inline tables in a value, and the longest path of keys. -/
def depthLimit : Nat := 80

/-- A path of keys with dots between them, in at most `n` keys, and what follows it and the blanks
    after it. -/
def keyPath : Nat → Text → Option (List Text × Text)
  | 0, _ => none
  | n + 1, t => do
    let (key, t) ← key? (skipSpace t)
    match skipSpace t with
    | '.' :: t => (keyPath n t).map fun (path, rest) => (key :: path, rest)
    | t => return ([key], t)

/-- A path of keys. -/
def keyPath? (t : Text) : Option (List Text × Text) := keyPath depthLimit t

/-! ## Values -/

mutual

/-- A value in at most `n` steps, with at most `depth` levels of arrays and inline tables. -/
def value (n depth : Nat) (t : Text) : Option (Value × Text) :=
  match n with
  | 0 => none
  | n + 1 =>
    match t with
    | '[' :: t => match depth with
      | 0 => none
      | depth + 1 => arrayItems n depth [] t
    | '\x7b' :: t => match depth with
      | 0 => none
      | depth + 1 => inlineEntries n depth [] t
    | '"' :: _ | '\'' :: _ => (string? t).map fun (s, rest) => (.string s, rest)
    | _ => let (word, rest) := splitWord t; (scalar? word).map (·, rest)
termination_by structural n

/-- The rest of an array; `items` are those read so far, in reverse. -/
def arrayItems (n depth : Nat) (items : List Value) (t : Text) : Option (Value × Text) :=
  match n with
  | 0 => none
  | n + 1 => do
    match ← skipFiller false t with
    | ']' :: t => return (.array .values items.reverse, t)
    | t =>
      let (v, t) ← value n depth t
      match ← skipFiller false t with
      | ',' :: t => arrayItems n depth (v :: items) t
      | ']' :: t => return (.array .values (v :: items).reverse, t)
      | _ => none
termination_by structural n

/-- The rest of an inline table; `entries` are those read so far. -/
def inlineEntries (n depth : Nat) (entries : Table) (t : Text) : Option (Value × Text) :=
  match n with
  | 0 => none
  | n + 1 => do
    match ← skipFiller false t with
    | '\x7d' :: t => return (.table .inline entries, t)
    | t =>
      let (path, t) ← keyPath? t
      let t ← after? ['='] (← skipFiller false t)
      let (v, t) ← value n depth (← skipFiller false t)
      let entries ← entries.assign path v .inline
      match ← skipFiller false t with
      | ',' :: t => inlineEntries n depth entries t
      | '\x7d' :: t => return (.table .inline entries, t)
      | _ => none
termination_by structural n

end

/-- A value and what follows.  Every two steps take a character. -/
def value? (t : Text) : Option (Value × Text) := value (2 * t.length + 2) depthLimit t

/-! ## Documents -/

/-- What has been read: the document, and the path of the header we are under. -/
structure Progress where
  root : Table := []
  current : List Text := []

/-- A header, from after its opening bracket on. -/
def headerLine (p : Progress) (t : Text) : Option (Progress × Text) := do
  let (array, t) := match t with
    | '[' :: t => (true, t)
    | t => (false, t)
  let (path, t) ← keyPath? t
  let t ← after? (if array then "]]".toList else "]".toList) t
  let root ← p.root.header array path
  return (⟨root, path⟩, ← lineEnd? t)

/-- An assignment. -/
def assignment (p : Progress) (t : Text) : Option (Progress × Text) := do
  let (path, t) ← keyPath? t
  let t ← after? ['='] t
  let (v, t) ← value? (skipSpace t)
  let root ← p.root.within false (fun origin t => t.assign path v origin) p.current .header
  return ({ p with root }, ← lineEnd? t)

/-- Lines to the end of the text, at most `n`. -/
def document : Nat → Progress → Text → Option Table
  | 0, p, t => if t.isEmpty then some p.root else none
  | n + 1, p, t => do
    match ← skipFiller false t with
    | [] => return p.root
    | '[' :: t => let (p, t) ← headerLine p t; document n p t
    | t => let (p, t) ← assignment p t; document n p t

/-- The document that a text spells; a byte order mark in front does not count. -/
def parse? (t : Text) : Option Table :=
  let t := (after? ['\ufeff'] t).getD t
  document (t.length + 1) {} t

example : (parse? "a.b = [1, # one\n 2]\n[c]\nd = \x7b e = 'x' \x7d\n".toList).isSome = true := by
  decide +kernel
example : (parse? "[a]\nb = 1\n[a]\n".toList).isSome = false := by decide +kernel
example : (parse? "[a.b.c]\n[a]\nb.d = 1\n".toList).isSome = true := by decide +kernel
example : (parse? "[a.b.c]\n[a]\nb.d = 1\n[a.b]\n".toList).isSome = false := by decide +kernel

end GoTemplate.Toml
