/-
  JSON values read back from their text.

  What `render` writes is lexed into the lexemes of the value (`lexes_render`), and the machine of
  the reader, fed with the lexemes of a value, settles that value and goes on (`run_lexemes`).  Both
  leave the REST behind the value open, so they compose along arrays and objects and serve the
  reader of documents, which takes the two outermost objects apart by itself.

  A number is kept as it is spelled, and nothing makes the spelling in a value one of a number: the
  statements are about values without numbers, which is what template trees are written as.
-/
import GoTemplate.Json.Reader
import GoTemplate.Proofs.Literal
import Mathlib.Data.List.Basic

namespace GoTemplate.Json

/-! ## Strings -/

/-- The unit as which a character is written: the C0 controls without an escape of their own become
    sixteen-bit units. -/
def unitOf (c : Char) : StringUnit :=
  if c.toNat < 0x20 ∧ c ≠ '\n' ∧ c ≠ '\r' ∧ c ≠ '\t' then .unit c.toNat else .char c

theorem unitOf_of_le {c : Char} (h : ¬ c.toNat < 0x20) : unitOf c = .char c :=
  if_neg fun hc => h hc.1

theorem stringUnits?_hex {n : Nat} (hn : n < 0x20) (t : Text) :
    stringUnits? ('\\' :: 'u' :: hexadecimal 4 n ++ t)
      = (stringUnits? t).map fun p => (.unit n :: p.1, p.2) := by
  obtain ⟨hlen, hval, -⟩ := Go.fitsHex_four (n := n) (by omega)
  obtain ⟨a, b, c, d, habcd⟩ := List.length_eq_four.1 hlen
  rw [habcd] at hval ⊢
  show stringUnits? ('\\' :: 'u' :: a :: b :: c :: d :: t) = _
  rw [stringUnits?, hval]
  cases stringUnits? t <;> rfl

/-- An escaped character is read as its unit. -/
theorem stringUnits?_escapeChar (c : Char) (t : Text) :
    stringUnits? (escapeChar c ++ t)
      = (stringUnits? t).map fun p => (unitOf c :: p.1, p.2) := by
  unfold escapeChar
  split
  case h_6 hq hb hn hr ht =>
    split
    · next hlt =>
      rw [stringUnits?_hex hlt, unitOf, if_pos ⟨hlt, hn, hr, ht⟩]
    · next hle =>
      rw [List.singleton_append, stringUnits?, if_neg (not_or.2 ⟨hb, hle⟩), unitOf_of_le hle]
      · cases stringUnits? t <;> rfl
      · exact hq
      · exact fun _ _ _ _ _ h => absurd h hb
      · exact fun _ _ h => absurd h hb
  -- the five characters with an escape of two characters
  all_goals
    rw [List.cons_append, List.singleton_append, stringUnits?]
    · cases stringUnits? t <;> rfl
    · exact fun _ _ _ _ _ h => absurd h (by decide)

theorem stringUnits?_flatMap (t rest : Text) :
    stringUnits? (t.flatMap escapeChar ++ '"' :: rest) = some (t.map unitOf, rest) := by
  induction t with
  | nil => rw [List.flatMap_nil, List.nil_append, stringUnits?]; rfl
  | cons c t ih => rw [List.flatMap_cons, List.append_assoc, stringUnits?_escapeChar, ih]; rfl

theorem unitsText?_unitOf (c : Char) (us : List StringUnit) :
    unitsText? (unitOf c :: us) = (unitsText? us).map (c :: ·) := by
  rw [unitOf]
  split
  · next h =>
    conv_lhs => unfold unitsText?
    rw [if_neg (by omega), if_neg (by omega), Char.ofNat_toNat]
  · rw [unitsText?]

theorem unitsText?_map (t : Text) : unitsText? (t.map unitOf) = some t := by
  induction t with
  | nil => rfl
  | cons c t ih => rw [List.map_cons, unitsText?_unitOf, ih]; rfl

/-! ## Lexing what was written -/

/-- A text that is lexed into `ls` wherever it stands. -/
structure Lexes (t : Text) (ls : List Lexeme) : Prop where
  reads : ∀ n rest, lexUpTo (n + ls.length) (t ++ rest) = ls ++ lexUpTo n rest
  length_le : ls.length ≤ t.length

theorem Lexes.append {s t : Text} {ls ms : List Lexeme} (hs : Lexes s ls) (ht : Lexes t ms) :
    Lexes (s ++ t) (ls ++ ms) where
  reads n rest := by
    have hlen : n + (ls ++ ms).length = n + ms.length + ls.length := by
      rw [List.length_append]
      omega
    rw [hlen, List.append_assoc, hs.reads, ht.reads, List.append_assoc]
  length_le := by
    have h₁ := hs.length_le
    have h₂ := ht.length_le
    simp only [List.length_append]
    omega

/-- One lexeme, if nothing in front of it is skipped. -/
theorem Lexes.one {c : Char} {t : Text} {x : Lexeme} (hc : isSpace c = false)
    (h : ∀ rest, lexeme? (c :: t ++ rest) = some (x, rest)) : Lexes (c :: t) [x] where
  reads n rest := by
    have hdrop : (c :: t ++ rest).dropWhile isSpace = c :: t ++ rest := by
      rw [List.cons_append, List.dropWhile_cons, hc]
      rfl
    have hlex := h rest
    rw [List.length_singleton, lexUpTo, hdrop]
    rw [List.cons_append] at hlex ⊢
    simp only [hlex, List.singleton_append]
  length_le := by
    rw [List.length_singleton, List.length_cons]
    omega

/-- A text is lexed completely. -/
theorem Lexes.lex {t : Text} {ls : List Lexeme} (h : Lexes t ls) : lex t = ls := by
  have hlen := h.length_le
  have hreads := h.reads (t.length - ls.length) []
  rw [Nat.sub_add_cancel hlen, List.append_nil] at hreads
  rw [Json.lex, hreads]
  cases t.length - ls.length <;> exact List.append_nil ls

theorem lexes_string (t : Text) : Lexes (renderString t) [.string (some t)] := by
  refine Lexes.one rfl fun rest => ?_
  rw [List.cons_append, List.append_assoc, List.singleton_append, lexeme?, stringUnits?_flatMap]
  simp only [Option.map_some, unitsText?_map]

theorem lexes_openObject : Lexes ['\x7b'] [.openObject] := Lexes.one rfl fun _ => rfl
theorem lexes_closeObject : Lexes ['\x7d'] [.closeObject] := Lexes.one rfl fun _ => rfl
theorem lexes_openArray : Lexes ['['] [.openArray] := Lexes.one rfl fun _ => rfl
theorem lexes_closeArray : Lexes [']'] [.closeArray] := Lexes.one rfl fun _ => rfl
theorem lexes_comma : Lexes [','] [.comma] := Lexes.one rfl fun _ => rfl
theorem lexes_colon : Lexes [':'] [.colon] := Lexes.one rfl fun _ => rfl

mutual

/-- The lexemes of a value. -/
def lexemes : Json → List Lexeme
  | .null => [.null]
  | .bool b => [.bool b]
  | .number literal => [.number literal true]
  | .string t => [.string (some t)]
  | .array [] => [.openArray, .closeArray]
  | .array (v :: vs) => .openArray :: (lexemes v ++ itemLexemes vs)
  | .object [] => [.openObject, .closeObject]
  | .object (m :: ms) => .openObject :: (memberLexemes m ++ membersLexemes ms)
termination_by structural v => v

/-- The lexemes of the further items of an array and of its end. -/
def itemLexemes : List Json → List Lexeme
  | [] => [.closeArray]
  | v :: vs => .comma :: (lexemes v ++ itemLexemes vs)
termination_by structural vs => vs

/-- The lexemes of a member. -/
def memberLexemes : Member → List Lexeme
  | .mk key value => .string (some key) :: .colon :: lexemes value
termination_by structural m => m

/-- The lexemes of the further members of an object and of its end. -/
def membersLexemes : List Member → List Lexeme
  | [] => [.closeObject]
  | m :: ms => .comma :: (memberLexemes m ++ membersLexemes ms)
termination_by structural ms => ms

end

mutual

/-- Whether no number stands in a value. -/
def numberless : Json → Bool
  | .number _ => false
  | .array items => numberlessItems items
  | .object members => numberlessMembers members
  | _ => true
termination_by structural v => v

/-- Whether no number stands in the items. -/
def numberlessItems : List Json → Bool
  | [] => true
  | v :: vs => numberless v && numberlessItems vs
termination_by structural vs => vs

/-- Whether no number stands in the value of a member. -/
def numberlessMember : Member → Bool
  | .mk _ value => numberless value
termination_by structural m => m

/-- Whether no number stands in the members. -/
def numberlessMembers : List Member → Bool
  | [] => true
  | m :: ms => numberlessMember m && numberlessMembers ms
termination_by structural ms => ms

end

mutual

/-- The text of a value is lexed into its lexemes. -/
theorem lexes_render (v : Json) (hv : numberless v = true) : Lexes (render v) (lexemes v) := by
  match v with
  | .null => exact Lexes.one rfl fun _ => rfl
  | .bool true => exact Lexes.one rfl fun _ => rfl
  | .bool false => exact Lexes.one rfl fun _ => rfl
  | .number _ => nomatch hv
  | .string t => exact lexes_string t
  | .array [] => exact lexes_openArray.append lexes_closeArray
  | .array (v :: vs) =>
    rw [numberless, numberlessItems, Bool.and_eq_true] at hv
    exact lexes_openArray.append ((lexes_render v hv.1).append (lexes_renderItems vs hv.2))
  | .object [] => exact lexes_openObject.append lexes_closeObject
  | .object (m :: ms) =>
    rw [numberless, numberlessMembers, Bool.and_eq_true] at hv
    exact lexes_openObject.append ((lexes_renderMember m hv.1).append (lexes_renderMembers ms hv.2))
termination_by structural v

theorem lexes_renderItems (vs : List Json) (hv : numberlessItems vs = true) :
    Lexes (renderItems vs) (itemLexemes vs) := by
  match vs with
  | [] => exact lexes_closeArray
  | v :: vs =>
    rw [numberlessItems, Bool.and_eq_true] at hv
    exact lexes_comma.append ((lexes_render v hv.1).append (lexes_renderItems vs hv.2))
termination_by structural vs

theorem lexes_renderMember (m : Member) (hm : numberlessMember m = true) :
    Lexes (renderMember m) (memberLexemes m) := by
  match m with
  | .mk key value =>
    exact (lexes_string key).append (lexes_colon.append (lexes_render value hm))
termination_by structural m

theorem lexes_renderMembers (ms : List Member) (hm : numberlessMembers ms = true) :
    Lexes (renderMembers ms) (membersLexemes ms) := by
  match ms with
  | [] => exact lexes_closeObject
  | m :: ms =>
    rw [numberlessMembers, Bool.and_eq_true] at hm
    exact lexes_comma.append ((lexes_renderMember m hm.1).append (lexes_renderMembers ms hm.2))
termination_by structural ms

end

/-! ## The machine on the lexemes of a value -/

mutual

/-- How many levels of arrays and objects a value has. -/
def nesting : Json → Nat
  | .array items => itemsNesting items + 1
  | .object members => membersNesting members + 1
  | _ => 0
termination_by structural v => v

/-- The levels of the deepest item. -/
def itemsNesting : List Json → Nat
  | [] => 0
  | v :: vs => max (nesting v) (itemsNesting vs)
termination_by structural vs => vs

/-- The levels of the value of a member. -/
def memberNesting : Member → Nat
  | .mk _ value => nesting value
termination_by structural m => m

/-- The levels of the deepest member. -/
def membersNesting : List Member → Nat
  | [] => 0
  | m :: ms => max (memberNesting m) (membersNesting ms)
termination_by structural ms => ms

end

/-- Go on from where a lexeme has led. -/
def Progress.go (limit : Option Nat) : Progress → List Lexeme → Option (Json × List Lexeme)
  | .done v, rest => some (v, rest)
  | .more stack expect, rest => run limit stack expect rest

theorem run_cons (limit : Option Nat) (stack : List Frame) (expect : Expect) (x : Lexeme)
    (rest : List Lexeme) :
    run limit stack expect (x :: rest) = (step limit stack expect x).bind (·.go limit rest) := by
  rw [run]
  rcases step limit stack expect x with _ | _ | _ <;> rfl

/-- The first item of an array may be any value. -/
theorem run_firstItem (limit : Option Nat) (stack : List Frame) (v : Json) (rest : List Lexeme) :
    run limit stack .firstItem (lexemes v ++ rest)
      = run limit stack .value (lexemes v ++ rest) := by
  match v with
  | .null | .bool _ | .number _ | .string _ | .array [] | .array (_ :: _) | .object []
  | .object (_ :: _) => simp only [lexemes, List.cons_append, run, step]

/-- A key leads to the colon behind it, be it the first of its object or a further one. -/
theorem run_key (limit : Nat) (read : List Member) (k : Text) (stack : List Frame)
    {expect : Expect} (hexpect : expect = .firstKey ∨ expect = .key) (key : Text)
    (rest : List Lexeme) :
    run (some limit) (.object read k :: stack) expect (.string (some key) :: .colon :: rest)
      = run (some limit) (.object read key :: stack) .value rest := by
  rcases hexpect with rfl | rfl <;> rfl

theorem run_openArray {limit : Nat} {stack : List Frame} (h : stack.length < limit)
    (rest : List Lexeme) :
    run (some limit) stack .value (.openArray :: rest)
      = run (some limit) (.array [] :: stack) .firstItem rest := by
  rw [run_cons, step, startValue, if_pos (by simpa [mayOpen] using h)]
  rfl

theorem run_openObject {limit : Nat} {stack : List Frame} (h : stack.length < limit)
    (rest : List Lexeme) :
    run (some limit) stack .value (.openObject :: rest)
      = run (some limit) (.object [] [] :: stack) .firstKey rest := by
  rw [run_cons, step, startValue, if_pos (by simpa [mayOpen] using h)]
  rfl

mutual

/-- The lexemes of a value, read where a value is expected, settle it.  The stack is one level for
    each array or object that is open, so the levels of the value come on top of it. -/
theorem run_lexemes {limit : Nat} (v : Json) (stack : List Frame)
    (hnest : stack.length + nesting v ≤ limit) (rest : List Lexeme) :
    run (some limit) stack .value (lexemes v ++ rest) = (settle v stack).go (some limit) rest := by
  match v with
  | .null | .bool _ | .number _ | .string _ => rw [lexemes, List.singleton_append, run_cons]; rfl
  | .array [] =>
    rw [nesting] at hnest
    rw [lexemes, List.cons_append, run_openArray (by omega), List.singleton_append, run_cons]
    rfl
  | .array (v :: vs) =>
    rw [nesting, itemsNesting] at hnest
    rw [lexemes, List.cons_append, run_openArray (by omega), List.append_assoc, run_firstItem,
      run_lexemes v (.array [] :: stack) (by rw [List.length_cons]; omega)]
    exact run_itemLexemes vs [v] stack (by omega) rest
  | .object [] =>
    rw [nesting] at hnest
    rw [lexemes, List.cons_append, run_openObject (by omega), List.singleton_append, run_cons]
    rfl
  | .object (m :: ms) =>
    rw [nesting, membersNesting] at hnest
    rw [lexemes, List.cons_append, run_openObject (by omega), List.append_assoc,
      run_memberLexemes m [] [] stack (.inl rfl) (by omega)]
    exact run_membersLexemes ms [m] stack (by omega) rest
termination_by structural v

theorem run_itemLexemes {limit : Nat} (vs read : List Json) (stack : List Frame)
    (hnest : stack.length + itemsNesting vs < limit) (rest : List Lexeme) :
    run (some limit) (.array read :: stack) .next (itemLexemes vs ++ rest)
      = (settle (.array (read.reverse ++ vs)) stack).go (some limit) rest := by
  match vs with
  | [] =>
    rw [itemLexemes, List.singleton_append, run_cons, List.append_nil]
    rfl
  | v :: vs =>
    rw [itemsNesting] at hnest
    rw [itemLexemes, List.cons_append, run_cons, List.append_assoc]
    show run (some limit) (.array read :: stack) .value (lexemes v ++ (itemLexemes vs ++ rest)) = _
    rw [run_lexemes v (.array read :: stack) (by rw [List.length_cons]; omega), List.append_cons,
      ← List.reverse_cons]
    exact run_itemLexemes vs (v :: read) stack (by omega) rest
termination_by structural vs

theorem run_memberLexemes {limit : Nat} {expect : Expect} (m : Member) (read : List Member)
    (k : Text) (stack : List Frame) (hexpect : expect = .firstKey ∨ expect = .key)
    (hnest : stack.length + memberNesting m < limit) (rest : List Lexeme) :
    run (some limit) (.object read k :: stack) expect (memberLexemes m ++ rest)
      = run (some limit) (.object (m :: read) [] :: stack) .next rest := by
  match m with
  | .mk key value =>
    rw [memberNesting] at hnest
    rw [memberLexemes, List.cons_append, List.cons_append, run_key limit read k stack hexpect,
      run_lexemes value (.object read key :: stack) (by rw [List.length_cons]; omega)]
    rfl
termination_by structural m

theorem run_membersLexemes {limit : Nat} (ms read : List Member) (stack : List Frame)
    (hnest : stack.length + membersNesting ms < limit) (rest : List Lexeme) :
    run (some limit) (.object read [] :: stack) .next (membersLexemes ms ++ rest)
      = (settle (.object (read.reverse ++ ms)) stack).go (some limit) rest := by
  match ms with
  | [] =>
    rw [membersLexemes, List.singleton_append, run_cons, List.append_nil]
    rfl
  | m :: ms =>
    rw [membersNesting] at hnest
    rw [membersLexemes, List.cons_append, run_cons, List.append_assoc]
    show run (some limit) (.object read [] :: stack) .key
      (memberLexemes m ++ (membersLexemes ms ++ rest)) = _
    rw [run_memberLexemes m read [] stack (.inr rfl) (by omega), List.append_cons,
      ← List.reverse_cons]
    exact run_membersLexemes ms (m :: read) stack (by omega) rest
termination_by structural ms

end

/-- A value of at most `limit` levels is read off its lexemes, whatever follows. -/
theorem read?_lexemes {limit : Nat} {v : Json} (h : nesting v ≤ limit) (rest : List Lexeme) :
    read? limit (lexemes v ++ rest) = some (v, rest) :=
  run_lexemes v [] (by rw [List.length_nil]; omega) rest

/-- Reading a text gives back the value that was written. -/
theorem parse?_render {limit : Nat} {v : Json} (hv : numberless v = true) (h : nesting v ≤ limit) :
    parse? limit (render v) = some v := by
  have hread := read?_lexemes h []
  rw [List.append_nil] at hread
  rw [parse?, (lexes_render v hv).lex, hread]

end GoTemplate.Json
