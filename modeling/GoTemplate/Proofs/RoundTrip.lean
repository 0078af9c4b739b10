/-
  Template documents written and read back.

  A document is written with all its fields (`Document.toJson`).  It comes back unchanged exactly if
  its token kinds are the ones their tags are read as: `TokenKind.other` may hold any tag, also that
  of a marker, but no reader makes such a kind.

  * On values, `Document.ofJson?` is the reader.  An object written for a token has no mode and is
    never taken for a node; an object written for a node is read as that node before it could be
    taken for a token.
  * On text, `Document.ofText` is the reader.  It takes the document and its root apart lexeme by
    lexeme and leaves the values inside the root to `Json.read?`, so its round trip goes through the
    lexemes of the written value.  It alone has a nesting limit, and since absent fields are written
    too, a document at the limit can be written beyond it.
  * The written text is also JSON for the written value, at any limit that it keeps
    (`Json.parse?_render`).
-/
import GoTemplate.Template.Reader
import GoTemplate.Proofs.JsonText

namespace GoTemplate

open Json (Lexeme lexemes memberLexemes membersLexemes nesting membersNesting numberless)

/-! ## Kinds that a tag is read as -/

/-- Not the tag of a marker dressed as another one. -/
def TokenKind.IsCanonical (k : TokenKind) : Prop :=
  k ≠ .other "AT".toList ∧ k ≠ .other "AT_COLON".toList

theorem TokenKind.isCanonical_ofTag (t : Text) : (ofTag t).IsCanonical := by
  unfold ofTag
  split
  · exact ⟨nofun, nofun⟩
  · next hat =>
    split
    · exact ⟨nofun, nofun⟩
    · next hcolon => exact ⟨fun h => hat (other.inj h), fun h => hcolon (other.inj h)⟩

theorem TokenKind.ofTag_tag {k : TokenKind} (h : k.IsCanonical) : ofTag k.tag = k := by
  cases k with
  | atSign => decide
  | atColon => decide
  | other t =>
    show ofTag t = other t
    rw [ofTag, if_neg fun ht => h.1 (congrArg other ht),
      if_neg fun ht => h.2 (congrArg other ht)]

/-- The canonical kinds are those that some tag is read as. -/
theorem TokenKind.isCanonical_iff {k : TokenKind} : k.IsCanonical ↔ ∃ t, k = ofTag t :=
  ⟨fun h => ⟨k.tag, (ofTag_tag h).symm⟩, fun ⟨t, h⟩ => h ▸ isCanonical_ofTag t⟩

mutual

/-- The tokens of a tree, in order. -/
def Node.tokens : Node → List Token
  | .program children => nodesTokens children
  | .markup children => childrenTokens children
  | .control _ children => childrenTokens children
  | .expression _ children => childrenTokens children
termination_by structural n => n

/-- The tokens of nodes, in order. -/
def nodesTokens : List Node → List Token
  | [] => []
  | n :: rest => n.tokens ++ nodesTokens rest
termination_by structural ns => ns

/-- The tokens of children, in order. -/
def childrenTokens : List Child → List Token
  | [] => []
  | .node n :: rest => n.tokens ++ childrenTokens rest
  | .token t :: rest => t :: childrenTokens rest
termination_by structural cs => cs

end

/-- All kinds among the tokens are canonical. -/
def Canonical (ts : List Token) : Prop := ∀ t ∈ ts, t.kind.IsCanonical

theorem canonical_nil : Canonical [] := fun _ h => absurd h List.not_mem_nil

theorem canonical_append {ss ts : List Token} :
    Canonical (ss ++ ts) ↔ Canonical ss ∧ Canonical ts := List.forall_mem_append

theorem canonical_cons {t : Token} {ts : List Token} :
    Canonical (t :: ts) ↔ t.kind.IsCanonical ∧ Canonical ts := List.forall_mem_cons

/-- All token kinds of the document are canonical. -/
def Document.IsCanonical (d : Document) : Prop := Canonical d.root.tokens

/-! ## Written values read back -/

theorem Token.ofJson?_toJson {t : Token} (h : t.kind.IsCanonical) :
    Token.ofJson? t.toJson = some t := by
  show some (⟨.ofTag t.kind.tag, t.text⟩ : Token) = some t
  rw [TokenKind.ofTag_tag h]

/-- A written token is no node: it has no mode. -/
theorem Token.node_ofJson?_toJson (t : Token) : Node.ofJson? t.toJson = none := rfl

mutual

theorem Node.ofJson?_toJson (n : Node) (h : Canonical n.tokens) :
    Node.ofJson? n.toJson = some n := by
  match n with
  | .program children =>
    show (nodes? (nodesJson children)).map Node.program = _
    rw [nodes?_nodesJson children h]; rfl
  | .markup children =>
    show (children? (childrenJson children)).map Node.markup = _
    rw [children?_childrenJson children h]; rfl
  | .control tagName children =>
    show (children? (childrenJson children)).map (Node.control tagName) = _
    rw [children?_childrenJson children h]; rfl
  | .expression tagName children =>
    show (children? (childrenJson children)).map (Node.expression tagName) = _
    rw [children?_childrenJson children h]; rfl
termination_by structural n

theorem nodes?_nodesJson (ns : List Node) (h : Canonical (nodesTokens ns)) :
    nodes? (nodesJson ns) = some ns := by
  match ns with
  | [] => rfl
  | n :: rest =>
    obtain ⟨hn, hrest⟩ := canonical_append.1 h
    rw [nodesJson, nodes?, Node.ofJson?_toJson n hn, nodes?_nodesJson rest hrest]
    rfl
termination_by structural ns

theorem children?_childrenJson (cs : List Child) (h : Canonical (childrenTokens cs)) :
    children? (childrenJson cs) = some cs := by
  match cs with
  | [] => rfl
  | .node n :: rest =>
    obtain ⟨hn, hrest⟩ := canonical_append.1 h
    rw [childrenJson, children?, Node.ofJson?_toJson n hn, children?_childrenJson rest hrest]
    rfl
  | .token t :: rest =>
    obtain ⟨ht, hrest⟩ := canonical_cons.1 h
    rw [childrenJson, children?, t.node_ofJson?_toJson, Token.ofJson?_toJson ht,
      children?_childrenJson rest hrest]
    rfl
termination_by structural cs

end

theorem Document.ofJson?_toJson {d : Document} (h : d.IsCanonical) :
    Document.ofJson? d.toJson = some d := by
  show (Node.ofJson? d.root.toJson).bind (fun root => some (⟨d.path, root⟩ : Document)) = some d
  rw [Node.ofJson?_toJson d.root h]
  rfl

/-! ## What is read is canonical -/

theorem Token.isCanonical_of_ofJson? {v : Json} {t : Token} (h : Token.ofJson? v = some t) :
    t.kind.IsCanonical := by
  match v, h with
  | .object ms, h =>
    rw [Token.ofJson?, Token.ofMembers?] at h
    obtain ⟨tag, -, h⟩ := Option.bind_eq_some_iff.1 h
    obtain ⟨text, -, h⟩ := Option.bind_eq_some_iff.1 h
    cases h
    exact TokenKind.isCanonical_ofTag tag

mutual

theorem Node.canonical_of_ofJson? (v : Json) {n : Node} (h : Node.ofJson? v = some n) :
    Canonical n.tokens := by
  match v with
  | .object ms =>
    rw [Node.ofJson?] at h
    split at h
    · obtain ⟨ns, hns, rfl⟩ := Option.map_eq_some_iff.1 h
      exact canonical_of_programField? ms hns
    · obtain ⟨cs, hcs, rfl⟩ := Option.map_eq_some_iff.1 h
      exact canonical_of_childrenField? ms hcs
    · obtain ⟨tagName, -, h⟩ := Option.bind_eq_some_iff.1 h
      obtain ⟨cs, hcs, rfl⟩ := Option.map_eq_some_iff.1 h
      exact canonical_of_childrenField? ms hcs
    · obtain ⟨tagName, -, h⟩ := Option.bind_eq_some_iff.1 h
      obtain ⟨cs, hcs, rfl⟩ := Option.map_eq_some_iff.1 h
      exact canonical_of_childrenField? ms hcs
    · cases h
  | .null | .bool _ | .number _ | .string _ | .array _ => cases h
termination_by structural v

theorem canonical_of_programField? (ms : List Member) {ns : List Node}
    (h : programField? ms = some ns) : Canonical (nodesTokens ns) := by
  match ms with
  | [] => cases h; exact canonical_nil
  | .mk key value :: rest =>
    unfold programField? at h
    split at h
    · split at h
      · match value, h with
        | .array items, h => exact canonical_of_nodes? items h
      · cases h
    · exact canonical_of_programField? rest h
termination_by structural ms

theorem canonical_of_childrenField? (ms : List Member) {cs : List Child}
    (h : childrenField? ms = some cs) : Canonical (childrenTokens cs) := by
  match ms with
  | [] => cases h; exact canonical_nil
  | .mk key value :: rest =>
    unfold childrenField? at h
    split at h
    · split at h
      · match value, h with
        | .array items, h => exact canonical_of_children? items h
      · cases h
    · exact canonical_of_childrenField? rest h
termination_by structural ms

theorem canonical_of_nodes? (vs : List Json) {ns : List Node} (h : nodes? vs = some ns) :
    Canonical (nodesTokens ns) := by
  match vs with
  | [] => cases h; exact canonical_nil
  | v :: rest =>
    rw [nodes?] at h
    obtain ⟨n, hn, h⟩ := Option.bind_eq_some_iff.1 h
    obtain ⟨ns, hns, rfl⟩ := Option.map_eq_some_iff.1 h
    exact canonical_append.2 ⟨Node.canonical_of_ofJson? v hn, canonical_of_nodes? rest hns⟩
termination_by structural vs

theorem canonical_of_children? (vs : List Json) {cs : List Child} (h : children? vs = some cs) :
    Canonical (childrenTokens cs) := by
  match vs with
  | [] => cases h; exact canonical_nil
  | v :: rest =>
    rw [children?] at h
    split at h
    · next n hn =>
      obtain ⟨cs, hcs, rfl⟩ := Option.map_eq_some_iff.1 h
      exact canonical_append.2 ⟨Node.canonical_of_ofJson? v hn, canonical_of_children? rest hcs⟩
    · split at h
      · next t ht =>
        obtain ⟨cs, hcs, rfl⟩ := Option.map_eq_some_iff.1 h
        exact canonical_cons.2 ⟨Token.isCanonical_of_ofJson? ht, canonical_of_children? rest hcs⟩
      · cases h
termination_by structural vs

end

theorem Document.isCanonical_of_ofJson? {v : Json} {d : Document}
    (h : Document.ofJson? v = some d) : d.IsCanonical := by
  match v, h with
  | .object ms, h =>
    rw [Document.ofJson?] at h
    obtain ⟨path, -, h⟩ := Option.bind_eq_some_iff.1 h
    obtain ⟨root, hroot, h⟩ := Option.bind_eq_some_iff.1 h
    cases h
    rw [nodeField?] at hroot
    split at hroot
    · obtain ⟨w, -, hw⟩ := Option.bind_eq_some_iff.1 hroot
      exact Node.canonical_of_ofJson? w hw
    · cases hroot

/-! ## Written trees as text -/

mutual

theorem Node.numberless_toJson (n : Node) : numberless n.toJson = true := by
  match n with
  | .program children =>
    simp [Node.toJson, numberless, Json.numberlessMembers, Json.numberlessMember,
      numberlessItems_nodesJson children]
  | .markup children | .control _ children | .expression _ children =>
    simp [Node.toJson, numberless, Json.numberlessMembers, Json.numberlessMember,
      numberlessItems_childrenJson children]
termination_by structural n

theorem numberlessItems_nodesJson (ns : List Node) :
    Json.numberlessItems (nodesJson ns) = true := by
  match ns with
  | [] => rfl
  | n :: rest =>
    rw [nodesJson, Json.numberlessItems, n.numberless_toJson, numberlessItems_nodesJson rest]
    rfl
termination_by structural ns

theorem numberlessItems_childrenJson (cs : List Child) :
    Json.numberlessItems (childrenJson cs) = true := by
  match cs with
  | [] => rfl
  | .node n :: rest =>
    rw [childrenJson, Json.numberlessItems, n.numberless_toJson, numberlessItems_childrenJson rest]
    rfl
  | .token t :: rest =>
    rw [childrenJson, Json.numberlessItems, numberlessItems_childrenJson rest]
    rfl
termination_by structural cs

end

theorem Document.numberless_toJson (d : Document) : numberless d.toJson = true := by
  simp [Document.toJson, numberless, Json.numberlessMembers, Json.numberlessMember,
    d.root.numberless_toJson]

theorem Document.lex_render (d : Document) : Json.lex d.toJson.render = lexemes d.toJson :=
  (Json.lexes_render d.toJson d.numberless_toJson).lex

/-- A written node has its mode in front, and only there. -/
theorem Node.toJson_eq (n : Node) :
    ∃ ms, n.toJson = .object (.mk modeKey (.string n.mode.name) :: ms)
      ∧ ∀ m ∈ ms, m.key ≠ modeKey := by
  have htag : tagNameKey ≠ modeKey := by decide
  have hchildren : childrenKey ≠ modeKey := by decide
  cases n with
  | program children => exact ⟨_, rfl, by simpa [Member.key] using hchildren⟩
  | markup children => exact ⟨_, rfl, by simpa [Member.key] using hchildren⟩
  | control tagName children => exact ⟨_, rfl, by simpa [Member.key] using ⟨htag, hchildren⟩⟩
  | expression tagName children => exact ⟨_, rfl, by simpa [Member.key] using ⟨htag, hchildren⟩⟩

theorem Mode.ofName?_name (m : Mode) : Mode.ofName? m.name = some m := by
  cases m <;> decide

namespace Document

/-- One further field of the root: its value is read and put in front of what has been read. -/
theorem rootFields_comma {key : Text} {v : Json} (hkey : key ≠ modeKey)
    (hv : nesting v ≤ nestingLimit - 2) (n : Nat) (name : Text) (read : List Member)
    (rest : List Lexeme) :
    rootFields (n + 1) false (some name) read (.comma :: (memberLexemes (.mk key v) ++ rest))
      = rootFields n false (some name) (.mk key v :: read) rest := by
  have hnext : nextKey false (.comma :: (memberLexemes (.mk key v) ++ rest))
      = .ok (some key, .colon :: (lexemes v ++ rest)) := rfl
  simp only [rootFields, hnext, expectColon, bind, Except.bind, if_neg hkey, Json.read?_lexemes hv]

/-- The remaining fields of the root, up to its end. -/
theorem rootFields_members {name : Text} {node : Node} (ms read : List Member)
    (hkeys : ∀ m ∈ ms, m.key ≠ modeKey) (hnest : membersNesting ms ≤ nestingLimit - 2)
    (hnode : Node.ofJson? (.object (.mk modeKey (.string name) :: (read.reverse ++ ms)))
      = some node)
    {n : Nat} (hn : ms.length < n) (rest : List Lexeme) :
    rootFields n false (some name) read (membersLexemes ms ++ rest) = .ok (node, rest) := by
  induction ms generalizing read n with
  | nil =>
    obtain ⟨n, rfl⟩ : ∃ k, n = k + 1 := ⟨n - 1, by omega⟩
    rw [List.append_nil] at hnode
    simp only [rootFields, membersLexemes, List.singleton_append, nextKey, bind, Except.bind, hnode]
    rfl
  | cons m ms ih =>
    obtain ⟨n, rfl⟩ : ∃ k, n = k + 1 := ⟨n - 1, by omega⟩
    obtain ⟨key, v⟩ := m
    rw [membersNesting, Json.memberNesting] at hnest
    rw [List.length_cons] at hn
    rw [List.append_cons, ← List.reverse_cons] at hnode
    have hkey : key ≠ modeKey := hkeys _ List.mem_cons_self
    rw [membersLexemes, List.cons_append, List.append_assoc, rootFields_comma hkey (by omega)]
    exact ih _ (fun m hm => hkeys m (List.mem_cons_of_mem _ hm)) (by omega) hnode (by omega)

theorem length_lt_membersLexemes (ms : List Member) : ms.length < (membersLexemes ms).length := by
  induction ms with
  | nil => exact Nat.one_pos
  | cons m ms ih =>
    rw [membersLexemes, List.length_cons, List.length_cons, List.length_append]
    omega

/-- A written root is read back, whatever follows. -/
theorem expectRoot_lexemes {n : Node} (h : Canonical n.tokens)
    (hnest : nesting n.toJson < nestingLimit) (rest : List Lexeme) :
    expectRoot (lexemes n.toJson ++ rest) = .ok (n, rest) := by
  have hread := Node.ofJson?_toJson n h
  obtain ⟨ms, hjson, hkeys⟩ := n.toJson_eq
  rw [hjson] at hread hnest ⊢
  rw [nesting, membersNesting] at hnest
  have hlen := length_lt_membersLexemes ms
  -- the mode stands in front and is checked on the spot; what follows is a run of further fields
  rw [lexemes, List.cons_append, expectRoot, rootFields]
  show (if (Mode.ofName? n.mode.name).isNone then _ else _) = _
  rw [Mode.ofName?_name]
  refine rootFields_members ms [] hkeys (by omega) hread ?_ rest
  simp only [memberLexemes, List.length_append, List.length_cons]
  omega

theorem fields_path (n : Nat) (path : Text) (rest : List Lexeme) :
    fields (n + 1) true none none (.string (some pathKey) :: .colon :: .string (some path) :: rest)
      = fields n false (some path) none rest := by
  rw [fields]
  rfl

theorem fields_root {r : Node} (h : Canonical r.tokens) (hnest : nesting r.toJson < nestingLimit)
    (n : Nat) (path : Option Text) (rest : List Lexeme) :
    fields (n + 1) false path none
        (.comma :: .string (some rootKey) :: .colon :: (lexemes r.toJson ++ rest))
      = fields n false path (some r) rest := by
  rw [fields]
  show (expectRoot (lexemes r.toJson ++ rest) >>= fun p => fields n false path (some p.1) p.2) = _
  rw [expectRoot_lexemes h hnest]
  rfl

/-- A document is read back from its text.  It is one level above its root, whose fields are read
    with the levels that are then left. -/
theorem ofText_render {d : Document} (h : d.IsCanonical) (hnest : nesting d.toJson ≤ nestingLimit) :
    ofText d.toJson.render = .ok d := by
  have hroot : nesting d.root.toJson < nestingLimit := by
    simp only [toJson, nesting, membersNesting, Json.memberNesting] at hnest
    omega
  have hlex : Json.lex d.toJson.render = .openObject :: .string (some pathKey) :: .colon
      :: .string (some d.path) :: .comma :: .string (some rootKey) :: .colon
      :: (lexemes d.root.toJson ++ [.closeObject]) := d.lex_render
  rw [ofText, hlex]
  simp only [List.length_cons]
  rw [fields_path, fields_root h hroot]
  rfl

/-! ## What is read from text is canonical -/

/-- A computation that succeeds does so in both its stages. -/
theorem exists_ok_of_bind_ok {ε α β : Type} {x : Except ε α} {f : α → Except ε β} {b : β}
    (h : x >>= f = .ok b) : ∃ a, x = .ok a ∧ f a = .ok b := by
  cases x with
  | error e => cases h
  | ok a => exact ⟨a, rfl, h⟩

theorem canonical_of_rootFields {n : Nat} {first : Bool} {mode : Option Text} {read : List Member}
    {ls rest : List Lexeme} {node : Node} (h : rootFields n first mode read ls = .ok (node, rest)) :
    Canonical node.tokens := by
  induction n generalizing first mode read ls with
  | zero => cases h
  | succ n ih =>
    unfold rootFields at h
    obtain ⟨⟨key?, ls⟩, -, h⟩ := exists_ok_of_bind_ok h
    cases key? with
    | none =>
      dsimp only at h
      split at h
      · next node' hnode =>
        cases h
        exact Node.canonical_of_ofJson? _ hnode
      · cases h
    | some key =>
      -- the mode, or a field whose value is read
      dsimp only at h
      split at h
      · split at h
        · cases h
        · obtain ⟨ls, -, h⟩ := exists_ok_of_bind_ok h
          obtain ⟨⟨name, ls⟩, -, h⟩ := exists_ok_of_bind_ok h
          dsimp only at h
          split at h
          · cases h
          · exact ih h
      · obtain ⟨ls, -, h⟩ := exists_ok_of_bind_ok h
        split at h
        · exact ih h
        · cases h

theorem canonical_of_expectRoot {ls rest : List Lexeme} {node : Node}
    (h : expectRoot ls = .ok (node, rest)) : Canonical node.tokens := by
  unfold expectRoot at h
  split at h
  · exact canonical_of_rootFields h
  · cases h

theorem isCanonical_of_fields {n : Nat} {first : Bool} {path : Option Text} {root : Option Node}
    {ls rest : List Lexeme} {d : Document} (hroot : ∀ r ∈ root, Canonical r.tokens)
    (h : fields n first path root ls = .ok (d, rest)) : d.IsCanonical := by
  induction n generalizing first path root ls with
  | zero => cases h
  | succ n ih =>
    unfold fields at h
    obtain ⟨⟨key?, ls⟩, -, h⟩ := exists_ok_of_bind_ok h
    cases key? with
    | none =>
      dsimp only at h
      split at h
      · next path root _ =>
        cases h
        exact hroot root rfl
      · cases h
    | some key =>
      -- the path, the root, or a field that is skimmed
      dsimp only at h
      split at h
      · split at h
        · cases h
        · obtain ⟨ls, -, h⟩ := exists_ok_of_bind_ok h
          obtain ⟨⟨path, ls⟩, -, h⟩ := exists_ok_of_bind_ok h
          exact ih hroot h
      · split at h
        · split at h
          · cases h
          · obtain ⟨ls, -, h⟩ := exists_ok_of_bind_ok h
            obtain ⟨⟨r, ls⟩, hr, h⟩ := exists_ok_of_bind_ok h
            refine ih (fun r' hr' => ?_) h
            cases hr'
            exact canonical_of_expectRoot hr
        · obtain ⟨ls, -, h⟩ := exists_ok_of_bind_ok h
          split at h
          · exact ih hroot h
          · cases h

theorem isCanonical_of_ofText {t : Text} {d : Document} (h : ofText t = .ok d) : d.IsCanonical := by
  unfold ofText at h
  split at h
  · obtain ⟨⟨d', ls⟩, hfields, h⟩ := exists_ok_of_bind_ok h
    cases ls with
    | nil =>
      cases h
      exact isCanonical_of_fields (fun r hr => absurd hr (Option.not_mem_none r)) hfields
    | cons x ls => cases h
  · cases h

end Document

/-- Documents survive being written and read.  On values these are exactly the documents whose kinds
    a tag is read as, hence whatever was read before; on text the same, for all that are not too
    deep when written, whether the text is read as a document or first as a value. -/
theorem document_roundTrip (d : Document) :
    (d.IsCanonical ↔ ∀ t ∈ d.root.tokens, ∃ tag, t.kind = .ofTag tag)
    ∧ (Document.ofJson? d.toJson = some d ↔ d.IsCanonical)
    ∧ (∀ v, Document.ofJson? v = some d → Document.ofJson? d.toJson = some d)
    ∧ (∀ t, Document.ofText t = .ok d → Document.ofJson? d.toJson = some d)
    ∧ (nesting d.toJson ≤ Document.nestingLimit →
        (Document.ofText d.toJson.render = .ok d ↔ d.IsCanonical)
        ∧ ∀ t, Document.ofText t = .ok d → Document.ofText d.toJson.render = .ok d)
    ∧ (∀ limit, nesting d.toJson ≤ limit →
        ((Json.parse? limit d.toJson.render).bind Document.ofJson? = some d ↔ d.IsCanonical)) := by
  have hvalue : Document.ofJson? d.toJson = some d ↔ d.IsCanonical :=
    ⟨Document.isCanonical_of_ofJson?, Document.ofJson?_toJson⟩
  refine ⟨?_, hvalue, fun v hv => ?_, fun t ht => ?_,
    fun hnest => ⟨⟨Document.isCanonical_of_ofText, fun h => ?_⟩, fun t ht => ?_⟩,
    fun limit hnest => ?_⟩
  · exact forall₂_congr fun t _ => TokenKind.isCanonical_iff
  · exact Document.ofJson?_toJson (Document.isCanonical_of_ofJson? hv)
  · exact Document.ofJson?_toJson (Document.isCanonical_of_ofText ht)
  · exact Document.ofText_render h hnest
  · exact Document.ofText_render (Document.isCanonical_of_ofText ht) hnest
  · rw [Json.parse?_render d.numberless_toJson hnest, Option.bind_some, hvalue]

example : (Document.ofText
    "\x7b\"root\":\x7b\"x\":[1],\"mode\":\"markup\"\x7d,\"path\":\"p\"\x7d".toList).toOption.map
      (·.toJson.render)
    = some "\x7b\"path\":\"p\",\"root\":\x7b\"mode\":\"markup\",\"children\":[]\x7d\x7d".toList := by
  decide +kernel

end GoTemplate
