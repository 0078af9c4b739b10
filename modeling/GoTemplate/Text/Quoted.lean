/-
  Quoted text in diagnostics.

  A text is shown between double quotes so that every character of it can be told apart: quotes,
  backslashes, the usual controls and NUL by two-character escapes, everything that is not plain
  to the eye by its code point in braces.
-/
import GoTemplate.Text
import GoTemplate.Text.Numeral
import GoTemplate.Text.Printable

namespace GoTemplate

/-- How one character is shown between the quotes. -/
def showChar (c : Char) : Text :=
  match c with
  | '\x00' => ['\\', '0']
  | '\t' => ['\\', 't']
  | '\n' => ['\\', 'n']
  | '\r' => ['\\', 'r']
  | '"' => ['\\', '"']
  | '\\' => ['\\', '\\']
  | _ => if isPlain c then [c] else "\\u\x7b".toList ++ hexadecimal 1 c.toNat ++ ['\x7d']

/-- A text as a diagnostic quotes it. -/
def quoted (t : Text) : Text := '"' :: (t.flatMap showChar ++ ['"'])

example : quoted "a\"\u200b".toList = "\"a\\\"\\u\x7b200b\x7d\"".toList := by decide +kernel

end GoTemplate
