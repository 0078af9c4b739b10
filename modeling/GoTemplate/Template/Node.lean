/-
  Template trees, as a template reader hands them over.

  A node is the whole program, a stretch of markup, a control statement or an interpolated
  expression; its children are nodes and tokens in document order, which is also the order of the
  output.  A program holds nodes only.  MARKER tokens (`AT`, `AT_COLON`) only steer the reader:
  they have a text but no value.
-/
import GoTemplate.Text

namespace GoTemplate

/-! ## Modes and tokens -/

/-- The mode of a node. -/
inductive Mode where
  | program
  | markup
  | control
  | expression
deriving DecidableEq, Repr

/-- The name of a mode. -/
def Mode.name : Mode → Text
  | .program => "program".toList
  | .markup => "markup".toList
  | .control => "control".toList
  | .expression => "expression".toList

/-- The mode of a name. -/
def Mode.ofName? (t : Text) : Option Mode :=
  if t = "program".toList then some .program
  else if t = "markup".toList then some .markup
  else if t = "control".toList then some .control
  else if t = "expression".toList then some .expression
  else none

/-- The kind of a token: one of the two markers, or any other tag. -/
inductive TokenKind where
  | atSign
  | atColon
  | other (tag : Text)
deriving DecidableEq

namespace TokenKind

/-- The tag by which a kind is written. -/
def tag : TokenKind → Text
  | .atSign => "AT".toList
  | .atColon => "AT_COLON".toList
  | .other t => t

/-- The kind of a tag. -/
def ofTag (t : Text) : TokenKind :=
  if t = "AT".toList then .atSign
  else if t = "AT_COLON".toList then .atColon
  else .other t

/-- Markers steer the template reader and contribute no text. -/
def isMarker : TokenKind → Bool
  | .other _ => false
  | _ => true

theorem tag_ofTag (t : Text) : (ofTag t).tag = t := by
  unfold ofTag
  split
  · next h => exact h.symm
  · split
    · next h => exact h.symm
    · rfl

end TokenKind

/-- A piece of template text. -/
structure Token where
  kind : TokenKind
  text : Text
deriving DecidableEq

/-- What a token contributes: its text, unless it is a marker. -/
def Token.value (t : Token) : Text := if t.kind.isMarker then [] else t.text

/-! ## Trees -/

mutual

/-- A node of a template tree. -/
inductive Node where
  | program (children : List Node)
  | markup (children : List Child)
  | control (tagName : Text) (children : List Child)
  | expression (tagName : Text) (children : List Child)

/-- A child of a node other than the program. -/
inductive Child where
  | node (n : Node)
  | token (t : Token)

end

/-- The mode of a node. -/
def Node.mode : Node → Mode
  | .program _ => .program
  | .markup _ => .markup
  | .control _ _ => .control
  | .expression _ _ => .expression

mutual

/-- Whether the tree holds a node that is no expression. -/
def Node.hasNonExpression : Node → Bool
  | .expression _ children => anyNonExpression children
  | _ => true
termination_by structural n => n

/-- Whether one of the children holds a node that is no expression. -/
def anyNonExpression : List Child → Bool
  | [] => false
  | .node n :: rest => n.hasNonExpression || anyNonExpression rest
  | .token _ :: rest => anyNonExpression rest
termination_by structural cs => cs

end

end GoTemplate
