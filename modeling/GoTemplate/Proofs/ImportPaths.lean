/-
  Import paths keep their meaning.

  A text that is accepted comes from a list of SOURCES, one for each spec in it: an import with its
  path literal as it was written, or a list of names with its type.  The sources account for the
  declarations of the text and for its literals, both in order (`exists_sources`), so the literal of
  an import is the one that stands in the text.

  The path of an import is put between double quotes, whatever quotes it had.  A path in double
  quotes stays as it is.  A raw path keeps its meaning exactly if it has no double quote and no
  backslash in it: the first would end the literal, the second would begin an escape.
-/
import GoTemplate.Proofs.LiteralValues
import GoTemplate.Proofs.SpecShapes

namespace GoTemplate

open Go (literals stringBytes? isInterpreted)

/-! ## The meaning of a path -/

namespace PathLiteral

variable (p : PathLiteral)

/-- Between double quotes the path is a literal, and it denotes what it denoted as written. -/
def KeepsMeaning : Prop :=
  isInterpreted p.requoted = true ∧ stringBytes? p.requoted = stringBytes? p.text

instance : Decidable p.KeepsMeaning := inferInstanceAs (Decidable (_ ∧ _))

theorem newline_not_mem : '\n' ∉ p.path := fun hmem => absurd (p.ink '\n' hmem) (by decide)

theorem plain_of_double (h : p.quote = '"') : '"' ∉ p.path ∧ '\\' ∉ p.path :=
  ⟨h ▸ p.closed, p.slash h⟩

/-- As it is written, a path denotes its own bytes, whichever quotes it has. -/
theorem stringBytes?_text : stringBytes? p.text = some (utf8 p.path) := by
  rcases p.quote_eq with hquote | hquote
  · rw [text, hquote]
    exact (Go.stringBytes?_self_iff p.newline_not_mem).2 (p.plain_of_double hquote)
  · rw [text, hquote]
    refine Go.stringBytes?_raw fun c hc => ⟨?_, ?_⟩
    · rintro rfl
      exact p.closed (hquote ▸ hc)
    · rintro rfl
      exact absurd (p.ink '\r' hc) (by decide)

/-- **The meaning is kept exactly if nothing in the path is special between double quotes.** -/
theorem keepsMeaning_iff : p.KeepsMeaning ↔ '"' ∉ p.path ∧ '\\' ∉ p.path := by
  have hself := Go.stringBytes?_self_iff p.newline_not_mem
  rw [KeepsMeaning, p.stringBytes?_text]
  constructor
  · rintro ⟨-, hbytes⟩
    exact hself.1 hbytes
  · intro hplain
    exact ⟨Go.isInterpreted_plain hplain.1 hplain.2, hself.2 hplain⟩

end PathLiteral

/-! ## Where declarations come from -/

/-- A spec as it was written. -/
inductive Source where
  | importing (localName? : Option Text) (literal : PathLiteral)
  | params (list : ParamList)

/-- The declarations of a source. -/
def Source.declarations : Source → List Declaration
  | .importing localName? literal => [.importing ⟨localName?, literal.requoted⟩]
  | .params list => list.declarations

/-- The literals of a source. -/
def Source.literals : Source → List Text
  | .importing _ literal => [literal.text]
  | .params list => Go.literals list.type

theorem Entry.exists_source {e : Entry} {ds : List Declaration} (h : e.read? = some ds) :
    ∃ s : Source, ds = s.declarations ∧ Go.literals e.text = s.literals := by
  obtain ⟨g, u⟩ := e
  cases g with
  | imports =>
    obtain ⟨d, hd, rfl⟩ := Option.map_eq_some_iff.1 h
    obtain ⟨name?, p, rfl, hliterals⟩ := importSpec?_eq hd
    exact ⟨.importing name? p, rfl, hliterals⟩
  | vars =>
    obtain ⟨p, rfl, -, hliterals⟩ := varSpec?_eq h
    exact ⟨.params p, rfl, hliterals⟩

/-- **The sources of a text account for its declarations and for its literals.** -/
theorem exists_sources {es : List Entry} {ds : List Declaration} (h : readAll? es = some ds) :
    ∃ sources : List Source, ds = sources.flatMap Source.declarations
      ∧ entryLiterals es = sources.flatMap Source.literals := by
  induction es generalizing ds with
  | nil =>
    cases h
    exact ⟨[], rfl, rfl⟩
  | cons e es ih =>
    obtain ⟨front, hfront, h⟩ := Option.bind_eq_some_iff.1 h
    obtain ⟨back, hback, rfl⟩ := Option.map_eq_some_iff.1 h
    obtain ⟨s, rfl, hliterals⟩ := Entry.exists_source hfront
    obtain ⟨sources, rfl, hrest⟩ := ih hback
    refine ⟨s :: sources, List.flatMap_cons.symm, ?_⟩
    have hcons : entryLiterals (e :: es) = literals e.text ++ entryLiterals es := List.flatMap_cons
    rw [hcons, hliterals, hrest, List.flatMap_cons]

/-! ## Import paths of a text -/

/-- **Every import path of an accepted text is made from a literal of the text, and keeps its
    meaning exactly if no double quote and no backslash is in it.**  In double quotes there is never
    one. -/
theorem import_paths_keep_meaning {t : Text} {ds : List Declaration}
    (h : parseDeclarations t = .ok ds) :
    ∃ sources : List Source, ds = sources.flatMap Source.declarations
      ∧ textLiterals t = sources.flatMap Source.literals
      ∧ ∀ name? p, .importing name? p ∈ sources →
          stringBytes? p.text = some (utf8 p.path)
            ∧ (p.quote = '"' → p.KeepsMeaning)
            ∧ (p.KeepsMeaning ↔ '"' ∉ p.path ∧ '\\' ∉ p.path) := by
  obtain ⟨-, hread⟩ := (parseDeclarations_eq_ok_iff t ds).1 h
  obtain ⟨sources, hdecls, hliterals⟩ := exists_sources hread
  refine ⟨sources, hdecls, (textLiterals_eq t).trans hliterals, fun name? p _ => ?_⟩
  refine ⟨p.stringBytes?_text, fun hdouble => ?_, p.keepsMeaning_iff⟩
  exact p.keepsMeaning_iff.2 (p.plain_of_double hdouble)

/-- Two ways to quote one path, and a literal in a type. -/
theorem import_paths_keep_meaning_both_quotes :
    ∃ t ds, parseDeclarations t = .ok ds
      ∧ ∃ sources : List Source, ds = sources.flatMap Source.declarations
        ∧ textLiterals t = sources.flatMap Source.literals
        ∧ ∀ name? p, .importing name? p ∈ sources →
            stringBytes? p.text = some (utf8 p.path)
              ∧ (p.quote = '"' → p.KeepsMeaning)
              ∧ (p.KeepsMeaning ↔ '"' ∉ p.path ∧ '\\' ∉ p.path) := by
  have h : parseDeclarations
      "import m \x60kp/m\x60; import \"kp/é\" // \"c\"\nvar t struct\x7b s string \"json\" \x7d".toList
      = .ok [.importing ⟨some "m".toList, "\"kp/m\"".toList⟩, .importing ⟨none, "\"kp/é\"".toList⟩,
          .param ⟨"t".toList, "struct\x7b s string \"json\" \x7d".toList⟩] := by decide +kernel
  exact ⟨_, _, h, import_paths_keep_meaning h⟩

/-- **A raw path does not always keep its meaning.**  With a double quote in it what is written is
    no literal at all, and with a backslash it is another path. -/
theorem raw_path_loses_meaning :
    (∃ path, parseDeclarations "import \x60a\"b\x60".toList = .ok [.importing ⟨none, path⟩]
        ∧ isInterpreted path = false ∧ stringBytes? path = none)
      ∧ ∃ path, parseDeclarations "import \x60a\\tb\x60".toList = .ok [.importing ⟨none, path⟩]
        ∧ isInterpreted path = true
        ∧ stringBytes? path ≠ stringBytes? "\x60a\\tb\x60".toList := by
  refine ⟨⟨"\"a\"b\"".toList, ?_, ?_, ?_⟩, "\"a\\tb\"".toList, ?_, ?_, ?_⟩ <;> decide +kernel

end GoTemplate
