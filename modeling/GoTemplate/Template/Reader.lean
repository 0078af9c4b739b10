/-
  Template documents from JSON text.

  The text is read from left to right and the FIRST fault counts: text that is no JSON is
  malformed, JSON of the wrong shape is misshapen.  A field of a wrong type, a second `path` or a
  mode that does not exist is seen on the spot; a fault inside the other fields of the root is seen
  when the root is complete.

  The document, its nodes and its tokens are objects; arrays with their fields by position are
  misshapen.

  Arrays and objects nest at most 127 deep, the document being the first level.  Unknown fields of
  the document itself are skimmed, at any depth; everything in the root is read strictly.
-/
import GoTemplate.Text
import GoTemplate.Json.Reader
import GoTemplate.Template.Shape

namespace GoTemplate

open Json (Lexeme)

/-- Why a text is no template document. -/
inductive DocumentFault where
  /-- The text is no JSON. -/
  | malformed
  /-- The JSON has the wrong shape. -/
  | misshapen
deriving DecidableEq, Repr

namespace Document

/-- The deepest nesting of arrays and objects. -/
def nestingLimit : Nat := 127

/-- A string, and the lexemes after it. -/
def expectText : List Lexeme → Except DocumentFault (Text × List Lexeme)
  | .string (some t) :: rest => .ok (t, rest)
  | .null :: _ | .bool _ :: _ | .openArray :: _ | .openObject :: _ | .number _ true :: _ =>
    .error .misshapen
  | _ => .error .malformed

/-- The fault of a value that should have been an object. -/
def faultOf : List Lexeme → DocumentFault
  | .openArray :: .closeArray :: _ => .misshapen
  | .openArray :: rest | rest =>
    match expectText rest with
    | .error f => f
    | .ok _ => .misshapen

/-- The next key of an object, or `none` at its end. -/
def nextKey (first : Bool) : List Lexeme → Except DocumentFault (Option Text × List Lexeme)
  | .closeObject :: rest => .ok (none, rest)
  | .string (some key) :: rest => if first then .ok (some key, rest) else .error .malformed
  | .comma :: .string (some key) :: rest => if first then .error .malformed else .ok (some key, rest)
  | _ => .error .malformed

/-- The lexemes after a colon. -/
def expectColon : List Lexeme → Except DocumentFault (List Lexeme)
  | .colon :: rest => .ok rest
  | _ => .error .malformed

/-- The rest of the root's object, in at most `n` fields.  `mode` and `read` are what has been seen
    of it, `read` in reverse. -/
def rootFields (n : Nat) (first : Bool) (mode : Option Text) (read : List Member)
    (ls : List Lexeme) : Except DocumentFault (Node × List Lexeme) :=
  match n with
  | 0 => .error .malformed
  | n + 1 => do
    match ← nextKey first ls with
    | (none, rest) =>
      let members := match mode with
        | some m => .mk modeKey (.string m) :: read.reverse
        | none => read.reverse
      match Node.ofJson? (.object members) with
      | some node => return (node, rest)
      | none => throw .misshapen
    | (some key, rest) =>
      if key = modeKey then
        if mode.isSome then throw .misshapen
        let rest ← expectColon rest
        let (name, rest) ← expectText rest
        if (Mode.ofName? name).isNone then throw .misshapen
        rootFields n false (some name) read rest
      else
        let rest ← expectColon rest
        match Json.read? (nestingLimit - 2) rest with
        | some (v, rest) => rootFields n false mode (.mk key v :: read) rest
        | none => throw .malformed

/-- The root node, and the lexemes after it. -/
def expectRoot : List Lexeme → Except DocumentFault (Node × List Lexeme)
  | .openObject :: rest => rootFields (rest.length + 1) true none [] rest
  | ls => .error (faultOf ls)

/-- The rest of the document's object, in at most `n` fields. -/
def fields (n : Nat) (first : Bool) (path : Option Text) (root : Option Node)
    (ls : List Lexeme) : Except DocumentFault (Document × List Lexeme) :=
  match n with
  | 0 => .error .malformed
  | n + 1 => do
    match ← nextKey first ls with
    | (none, rest) =>
      match path, root with
      | some path, some root => return (⟨path, root⟩, rest)
      | _, _ => throw .misshapen
    | (some key, rest) =>
      if key = pathKey then
        if path.isSome then throw .misshapen
        let rest ← expectColon rest
        let (path, rest) ← expectText rest
        fields n false (some path) root rest
      else if key = rootKey then
        if root.isSome then throw .misshapen
        let rest ← expectColon rest
        let (root, rest) ← expectRoot rest
        fields n false path (some root) rest
      else
        let rest ← expectColon rest
        match Json.skim? rest with
        | some rest => fields n false path root rest
        | none => throw .malformed

/-- The document that a text spells. -/
def ofText (t : Text) : Except DocumentFault Document :=
  match Json.lex t with
  | .openObject :: rest => do
    match ← fields (rest.length + 1) true none none rest with
    | (doc, []) => return doc
    | _ => throw .malformed
  | ls => .error (faultOf ls)

end Document

end GoTemplate
