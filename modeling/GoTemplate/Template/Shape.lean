/-
  Template trees as JSON values.

  * a node is an object with a `mode`, its `children` (none if absent) and, for control and
    expression nodes, a `tag_name` (empty if absent); a token an object with a `type` and a `text`
    (empty if absent);
  * keys that mean nothing are passed over, but a key that means something stands only once;
  * a child is read as a node and, if that fails for whatever reason, as a token;
  * only these objects are read: an array that lists the fields by position, or a mode given by its
    number, is no document, node or token here.

  `Node.toJson` writes every field, so reading back what was written gives the tree again.
-/
import GoTemplate.Text
import GoTemplate.Json.Value
import GoTemplate.Template.Document

namespace GoTemplate

/-! ## Keys -/

/-- The key of a node's mode. -/
def modeKey : Text := "mode".toList

/-- The key of a node's children. -/
def childrenKey : Text := "children".toList

/-- The key of the tag name of a control or expression node. -/
def tagNameKey : Text := "tag_name".toList

/-- The key of a token's kind. -/
def typeKey : Text := "type".toList

/-- The key of a token's text. -/
def textKey : Text := "text".toList

/-- The key of a document's path. -/
def pathKey : Text := "path".toList

/-- The key of a document's tree. -/
def rootKey : Text := "root".toList

/-- The text of a key that stands at most once: `default` if it is absent, `none` if it is
    repeated or no string. -/
def textField? (key : Text) (default : Option Text) (ms : List Member) : Option Text :=
  match Json.countKey key ms with
  | 0 => default
  | 1 => match Json.find? key ms with
    | some (.string t) => some t
    | _ => none
  | _ => none

/-- The mode of a node's object. -/
def mode? (ms : List Member) : Option Mode := (textField? modeKey none ms).bind Mode.ofName?

/-! ## Reading -/

/-- A token from the members of its object. -/
def Token.ofMembers? (ms : List Member) : Option Token := do
  let tag ← textField? typeKey none ms
  let text ← textField? textKey (some []) ms
  return ⟨.ofTag tag, text⟩

/-- A token from its object. -/
def Token.ofJson? : Json → Option Token
  | .object ms => Token.ofMembers? ms
  | _ => none

mutual

/-- A node from its object. -/
def Node.ofJson? : Json → Option Node
  | .object ms => match mode? ms with
    | some .program => (programField? ms).map .program
    | some .markup => (childrenField? ms).map .markup
    | some .control => do
      let tagName ← textField? tagNameKey (some []) ms
      (childrenField? ms).map (.control tagName)
    | some .expression => do
      let tagName ← textField? tagNameKey (some []) ms
      (childrenField? ms).map (.expression tagName)
    | none => none
  | _ => none
termination_by structural v => v

/-- The children of a program: nodes only. -/
def programField? : List Member → Option (List Node)
  | [] => some []
  | .mk key value :: rest =>
    if key = childrenKey then
      if Json.countKey childrenKey rest = 0 then match value with
        | .array items => nodes? items
        | _ => none
      else none
    else programField? rest
termination_by structural ms => ms

/-- The children of any other node. -/
def childrenField? : List Member → Option (List Child)
  | [] => some []
  | .mk key value :: rest =>
    if key = childrenKey then
      if Json.countKey childrenKey rest = 0 then match value with
        | .array items => children? items
        | _ => none
      else none
    else childrenField? rest
termination_by structural ms => ms

/-- Nodes, each from its object. -/
def nodes? : List Json → Option (List Node)
  | [] => some []
  | v :: rest => do
    let n ← Node.ofJson? v
    (nodes? rest).map (n :: ·)
termination_by structural vs => vs

/-- Children, each a node or else a token. -/
def children? : List Json → Option (List Child)
  | [] => some []
  | v :: rest =>
    match Node.ofJson? v with
    | some n => (children? rest).map (.node n :: ·)
    | none => match Token.ofJson? v with
      | some t => (children? rest).map (.token t :: ·)
      | none => none
termination_by structural vs => vs

end

/-! ## Writing -/

/-- A token with both its fields. -/
def Token.toJson (t : Token) : Json :=
  .object [.mk typeKey (.string t.kind.tag), .mk textKey (.string t.text)]

mutual

/-- A node with all its fields. -/
def Node.toJson : Node → Json
  | .program children =>
    .object [.mk modeKey (.string Mode.program.name), .mk childrenKey (.array (nodesJson children))]
  | .markup children =>
    .object [.mk modeKey (.string Mode.markup.name), .mk childrenKey (.array (childrenJson children))]
  | .control tagName children =>
    .object [.mk modeKey (.string Mode.control.name), .mk tagNameKey (.string tagName),
      .mk childrenKey (.array (childrenJson children))]
  | .expression tagName children =>
    .object [.mk modeKey (.string Mode.expression.name), .mk tagNameKey (.string tagName),
      .mk childrenKey (.array (childrenJson children))]
termination_by structural n => n

/-- Nodes in order. -/
def nodesJson : List Node → List Json
  | [] => []
  | n :: rest => n.toJson :: nodesJson rest
termination_by structural ns => ns

/-- Children in order. -/
def childrenJson : List Child → List Json
  | [] => []
  | .node n :: rest => n.toJson :: childrenJson rest
  | .token t :: rest => t.toJson :: childrenJson rest
termination_by structural cs => cs

end

/-- A document with its two fields. -/
def Document.toJson (d : Document) : Json :=
  .object [.mk pathKey (.string d.path), .mk rootKey d.root.toJson]

/-- The node of a key that stands exactly once. -/
def nodeField? (key : Text) (ms : List Member) : Option Node :=
  if Json.countKey key ms = 1 then (Json.find? key ms).bind Node.ofJson? else none

/-- A document from its object. -/
def Document.ofJson? : Json → Option Document
  | .object ms => do
    let path ← textField? pathKey none ms
    let root ← nodeField? rootKey ms
    return ⟨path, root⟩
  | _ => none

end GoTemplate
