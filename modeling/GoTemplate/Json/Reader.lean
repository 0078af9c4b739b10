/-
  Reading a JSON value from lexemes.

  The reader is a machine with a stack: one frame for each array or object that is open, with what
  has been read of it, and what may come next.  It takes one lexeme at a time and stops right after
  the value, so the caller goes on with the lexemes that are left.

  With a nesting limit the reading is STRICT: every string must have a text, every number must be
  finite.  Without one it only SKIMS: any well-formed value will do, at any depth.
-/
import GoTemplate.Text
import GoTemplate.Json.Value
import GoTemplate.Json.Lexeme

namespace GoTemplate.Json

/-- An array or object that is open; what has been read of it stands in reverse. -/
inductive Frame where
  | array (items : List Json)
  /-- `key` is the key whose value is being read. -/
  | object (members : List Member) (key : Text)

/-- What may come next. -/
inductive Expect where
  | value
  /-- A value, or the end of an array that has just been opened. -/
  | firstItem
  /-- A key, or the end of an object that has just been opened. -/
  | firstKey
  | key
  | colon
  /-- A comma or the end of the innermost array or object. -/
  | next

/-- The machine after a lexeme: done with a value, or waiting for more. -/
inductive Progress where
  | done (v : Json)
  | more (stack : List Frame) (expect : Expect)

/-- A value is complete: it goes into the innermost frame. -/
def settle (v : Json) : List Frame → Progress
  | [] => .done v
  | .array items :: stack => .more (.array (v :: items) :: stack) .next
  | .object members key :: stack => .more (.object (.mk key v :: members) [] :: stack) .next

/-- The value of a lexeme that is one by itself. -/
def scalar? (strict : Bool) : Lexeme → Option Json
  | .null => some .null
  | .bool b => some (.bool b)
  | .string (some t) => some (.string t)
  | .string none => if strict then none else some (.string [])
  | .number literal finite => if strict && !finite then none else some (.number literal)
  | _ => none

/-- The key that a lexeme gives. -/
def key? (strict : Bool) : Lexeme → Option Text
  | .string (some t) => some t
  | .string none => if strict then none else some []
  | _ => none

/-- Whether one more level may be opened. -/
def mayOpen (limit : Option Nat) (stack : List Frame) : Bool :=
  match limit with
  | none => true
  | some n => stack.length < n

/-- A lexeme where a value is expected. -/
def startValue (limit : Option Nat) (stack : List Frame) : Lexeme → Option Progress
  | .openArray => if mayOpen limit stack then some (.more (.array [] :: stack) .firstItem) else none
  | .openObject =>
    if mayOpen limit stack then some (.more (.object [] [] :: stack) .firstKey) else none
  | x => (scalar? limit.isSome x).map (settle · stack)

/-- A lexeme where a key is expected. -/
def startMember (limit : Option Nat) (stack : List Frame) (x : Lexeme) : Option Progress :=
  match stack with
  | .object members _ :: rest =>
    (key? limit.isSome x).map fun key => .more (.object members key :: rest) .colon
  | _ => none

/-- The end of the innermost array or object, or a comma in it. -/
def continueFrame (stack : List Frame) (x : Lexeme) : Option Progress :=
  match stack, x with
  | .array _ :: _, .comma => some (.more stack .value)
  | .object _ _ :: _, .comma => some (.more stack .key)
  | .array items :: rest, .closeArray => some (settle (.array items.reverse) rest)
  | .object members _ :: rest, .closeObject => some (settle (.object members.reverse) rest)
  | _, _ => none

/-- One lexeme; `none` if it may not stand here. -/
def step (limit : Option Nat) (stack : List Frame) : Expect → Lexeme → Option Progress
  | .value, x => startValue limit stack x
  | .firstItem, .closeArray => continueFrame stack .closeArray
  | .firstItem, x => startValue limit stack x
  | .firstKey, .closeObject => continueFrame stack .closeObject
  | .firstKey, x => startMember limit stack x
  | .key, x => startMember limit stack x
  | .colon, .colon => some (.more stack .value)
  | .colon, _ => none
  | .next, x => continueFrame stack x

/-- Lexemes until a value is complete: the value and the lexemes left. -/
def run (limit : Option Nat) (stack : List Frame) (expect : Expect) :
    List Lexeme → Option (Json × List Lexeme)
  | [] => none
  | x :: rest =>
    match step limit stack expect x with
    | none => none
    | some (.done v) => some (v, rest)
    | some (.more stack' expect') => run limit stack' expect' rest

/-- Read a value strictly, with at most `limit` levels of arrays and objects. -/
def read? (limit : Nat) (ls : List Lexeme) : Option (Json × List Lexeme) := run (some limit) [] .value ls

/-- Skip a value of any depth. -/
def skim? (ls : List Lexeme) : Option (List Lexeme) := (run none [] .value ls).map (·.2)

/-- The one value that a text spells. -/
def parse? (limit : Nat) (t : Text) : Option Json :=
  match read? limit (lex t) with
  | some (v, []) => some v
  | _ => none

example : (parse? 2 "\x7b\"a\": [1, true], \"a\": \x7b\x7d\x7d".toList).map render
    = some "\x7b\"a\":[1,true],\"a\":\x7b\x7d\x7d".toList := by decide +kernel
example : (parse? 2 "[[[]]]".toList).isNone = true := by decide +kernel
example : (parse? 2 "[1,]".toList).isNone = true := by decide +kernel

end GoTemplate.Json
