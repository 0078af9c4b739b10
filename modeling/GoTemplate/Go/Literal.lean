/-
  String literals of Go.

  * `quote` writes an interpreted literal on one line: the quote, the backslash and every control
    character become escapes, all else stands for itself;
  * `rawString` writes a raw literal between backticks; a backtick cannot stand inside one, so
    each is spliced in as an interpreted literal of its own.
-/
import GoTemplate.Text
import GoTemplate.Text.Numeral

namespace GoTemplate.Go

/-- A control character (general category `Cc`). -/
def isControl (c : Char) : Bool := c.toNat < 0x20 || (0x7f ≤ c.toNat && c.toNat < 0xa0)

/-- One character inside an interpreted literal. -/
def quoteChar (c : Char) : Text :=
  match c with
  | '"' => ['\\', '"']
  | '\\' => ['\\', '\\']
  | '\n' => ['\\', 'n']
  | '\t' => ['\\', 't']
  | '\r' => ['\\', 'r']
  | '\x07' => ['\\', 'a']
  | '\x08' => ['\\', 'b']
  | '\x0c' => ['\\', 'f']
  | '\x0b' => ['\\', 'v']
  | _ =>
    if isControl c then
      if c.toNat < 0x80 then '\\' :: 'x' :: hexadecimal 2 c.toNat
      else if c.toNat ≤ 0xffff then '\\' :: 'u' :: hexadecimal 4 c.toNat
      -- never needed: control characters end before U+00A0
      else '\\' :: 'U' :: hexadecimal 8 c.toNat
    else [c]

/-- A text as an interpreted string literal. -/
def quote (t : Text) : Text := '"' :: (t.flatMap quoteChar ++ ['"'])

/-- One character inside a raw literal: a backtick closes it, adds itself and opens another. -/
def rawChar (c : Char) : Text := if c = '\x60' then "` + \"`\" + `".toList else [c]

/-- A text as raw string literals, joined where it holds a backtick. -/
def rawString (t : Text) : Text := '\x60' :: (t.flatMap rawChar ++ ['\x60'])

example : quote "a\"\n\u0085é".toList = "\"a\\\"\\n\\u0085é\"".toList := by decide
example : rawString "a`b".toList = "`a` + \"`\" + `b`".toList := by decide

end GoTemplate.Go
