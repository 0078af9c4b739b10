/-
  JSON values and their text.

  An object is the list of its members in the order they were written; nothing stops a key from
  standing there twice.  A number is kept as it was spelled.
-/
import GoTemplate.Text
import GoTemplate.Text.Numeral

namespace GoTemplate

mutual

/-- A JSON value. -/
inductive Json where
  | null
  | bool (b : Bool)
  | number (literal : Text)
  | string (text : Text)
  | array (items : List Json)
  | object (members : List Member)

/-- A key with its value. -/
inductive Member where
  | mk (key : Text) (value : Json)

end

/-- The key of a member. -/
def Member.key : Member → Text
  | .mk key _ => key

/-- The value of a member. -/
def Member.value : Member → Json
  | .mk _ value => value

namespace Json

/-- How often a key stands in an object. -/
def countKey (key : Text) (ms : List Member) : Nat := ms.countP (·.key == key)

/-- The value of a key, the first if there are several. -/
def find? (key : Text) (ms : List Member) : Option Json := (ms.find? (·.key == key)).map Member.value

/-! ## Writing -/

/-- One character inside a string: quotes, backslashes and C0 controls are escaped. -/
def escapeChar (c : Char) : Text :=
  match c with
  | '"' => ['\\', '"']
  | '\\' => ['\\', '\\']
  | '\n' => ['\\', 'n']
  | '\r' => ['\\', 'r']
  | '\t' => ['\\', 't']
  | _ => if c.toNat < 0x20 then '\\' :: 'u' :: hexadecimal 4 c.toNat else [c]

/-- A text as a JSON string. -/
def renderString (t : Text) : Text := '"' :: (t.flatMap escapeChar ++ ['"'])

mutual

/-- A value without any white space. -/
def render : Json → Text
  | .null => "null".toList
  | .bool true => "true".toList
  | .bool false => "false".toList
  | .number literal => literal
  | .string t => renderString t
  | .array [] => "[]".toList
  | .array (v :: vs) => '[' :: (render v ++ renderItems vs)
  | .object [] => "\x7b\x7d".toList
  | .object (m :: ms) => '\x7b' :: (renderMember m ++ renderMembers ms)
termination_by structural v => v

/-- The further items of an array and its end. -/
def renderItems : List Json → Text
  | [] => [']']
  | v :: vs => ',' :: (render v ++ renderItems vs)
termination_by structural vs => vs

/-- A member: key, colon, value. -/
def renderMember : Member → Text
  | .mk key value => renderString key ++ ':' :: render value
termination_by structural m => m

/-- The further members of an object and its end. -/
def renderMembers : List Member → Text
  | [] => ['\x7d']
  | m :: ms => ',' :: (renderMember m ++ renderMembers ms)
termination_by structural ms => ms

end

example : render (.object [.mk "a".toList (.array [.bool true, .string "\n".toList])])
    = "\x7b\"a\":[true,\"\\n\"]\x7d".toList := by decide

end Json

end GoTemplate
