/-
  The region passes as functions on lists of lines.

  `stripSpans` and `liftSpans` return the text of the lines they keep.  `keptLines` and
  `liftedLines` are the same recursions with the lines still apart; `stripSpans_eq` and
  `liftSpans_eq` say that nothing else differs.  On lists two things are plain:

  1. where no line is a header, a pass changes nothing (`keptLines_of_no_header`,
     `liftedLines_of_no_header`);
  2. a pass looks at a line only through `OpenRegion.next?` and `header?`.  Two lines that agree
     there are INDISTINCT, and bodies of pairwise indistinct lines have the same regions, fail
     with the same error, and keep lines at the same places (`keptLines_related`,
     `liftedLines_related`).
-/
import GoTemplate.Proofs.TextCuts
import GoTemplate.Region

namespace GoTemplate

/-! ## Results that fail alike -/

/-- Two results with the same error, or with values related by `R`. -/
inductive SameResult {ε α β : Type} (R : α → β → Prop) : Except ε α → Except ε β → Prop
  | ok {a : α} {b : β} : R a b → SameResult R (.ok a) (.ok b)
  | error (e : ε) : SameResult R (.error e) (.error e)

theorem SameResult.map {ε α β γ δ : Type} {R : α → β → Prop} {S : γ → δ → Prop} {f : α → γ}
    {g : β → δ} {x : Except ε α} {y : Except ε β} (h : SameResult R x y)
    (hfg : ∀ a b, R a b → S (f a) (g b)) : SameResult S (x.map f) (y.map g) := by
  cases h with
  | ok hab => exact .ok (hfg _ _ hab)
  | error e => exact .error e

theorem SameResult.bind {ε α β γ δ : Type} {R : α → β → Prop} {S : γ → δ → Prop}
    {f : α → Except ε γ} {g : β → Except ε δ} {x : Except ε α} {y : Except ε β}
    (h : SameResult R x y) (hfg : ∀ a b, R a b → SameResult S (f a) (g b)) :
    SameResult S (x.bind f) (y.bind g) := by
  cases h with
  | ok hab => exact hfg _ _ hab
  | error e => exact .error e

/-- A mapped result that succeeds comes from one that succeeds. -/
theorem exists_ok_of_map_ok {ε α β : Type} {f : α → β} {x : Except ε α} {b : β}
    (h : x.map f = .ok b) : ∃ a, x = .ok a ∧ f a = b := by
  cases x with
  | error e => nomatch h
  | ok a => exact ⟨a, rfl, Except.ok.inj h⟩

/-! ## Headers -/

/-- A header ends with an opening brace. -/
theorem header?_of_getLast? {keyword line : Text} {c : Char} (hlast : line.getLast? = some c)
    (hc : c ≠ '\x7b') : header? keyword line = none := by
  have hnone : (after? keyword line).bind (before? ['\x7b']) = none := by
    cases ha : after? keyword line with
    | none => rfl
    | some rest =>
      cases hb : before? ['\x7b'] rest with
      | none => exact hb
      | some inner =>
        rw [eq_append_of_after? ha, eq_append_of_before? hb, ← List.append_assoc,
          List.getLast?_concat] at hlast
        exact absurd (Option.some.inj hlast).symm hc
  rw [header?, hnone]

/-! ## Blocks -/

/-- The lines outside block regions. -/
def keptLines (template : Text) (n : Nat) (open? : Option OpenRegion) :
    List Text → Except CompileError (List Text)
  | [] => match open? with
    | none => .ok []
    | some r => .error (r.unbalanced template .blocks)
  | span :: rest => match open? with
    | some r => keptLines template (n + 1) (r.next? (trim span)) rest
    | none => match header? RegionKind.blocks.keyword (trim span) with
      | some name => keptLines template (n + 1) (some ⟨name, n, 1⟩) rest
      | none => (keptLines template (n + 1) none rest).map (span :: ·)

theorem stripSpans_eq (template : Text) (n : Nat) (open? : Option OpenRegion) (ls : List Text) :
    stripSpans template n open? ls = (keptLines template n open? ls).map List.flatten := by
  induction ls generalizing n open? with
  | nil => cases open? <;> rfl
  | cons span rest ih =>
    cases open? with
    | some r => exact ih _ _
    | none =>
      rw [stripSpans, keptLines]
      cases header? RegionKind.blocks.keyword (trim span) with
      | some name => exact ih _ _
      | none =>
        simp only [ih]
        cases keptLines template (n + 1) none rest <;> rfl

theorem keptLines_of_no_header {ls : List Text}
    (h : ∀ l ∈ ls, header? RegionKind.blocks.keyword (trim l) = none) (template : Text) (n : Nat) :
    keptLines template n none ls = .ok ls := by
  induction ls generalizing n with
  | nil => rfl
  | cons span rest ih =>
    rw [keptLines, h span List.mem_cons_self]
    simp only [ih (fun l hl => h l (List.mem_cons_of_mem span hl))]
    rfl

/-! ## Sections -/

/-- The lines outside section regions, and for each region its name and the lines in it. -/
def liftedLines (template : Text) (n : Nat) (seen : List Text)
    (open? : Option (OpenRegion × List Text)) :
    List Text → Except CompileError (List Text × List (Text × List Text))
  | [] => match open? with
    | none => .ok ([], [])
    | some (r, _) => .error (r.unbalanced template .sections)
  | span :: rest => match open? with
    | some (r, content) => match r.next? (trim span) with
      | some r' => liftedLines template (n + 1) seen (some (r', content ++ [span])) rest
      | none =>
        if seen.contains r.name then .error ⟨template, .duplicateSection r.name⟩
        else (liftedLines template (n + 1) (r.name :: seen) none rest).map
          fun (ks, ss) => (ks, (r.name, content) :: ss)
    | none => match header? RegionKind.sections.keyword (trim span) with
      | some [] => .error ⟨template, .emptySectionName n⟩
      | some name => liftedLines template (n + 1) seen (some (⟨capitalize name, n, 1⟩, [])) rest
      | none => (liftedLines template (n + 1) seen none rest).map
          fun (ks, ss) => (span :: ks, ss)

/-- The text of lifted lines. -/
def glue (lifted : List Text × List (Text × List Text)) : Text × List Section :=
  (lifted.1.flatten, lifted.2.map fun s => ⟨s.1, s.2.flatten⟩)

theorem liftSpans_eq (template : Text) (n : Nat) (seen : List Text)
    (open? : Option (OpenRegion × List Text)) (ls : List Text) :
    liftSpans template n seen (open?.map fun p => (p.1, p.2.flatten)) ls
      = (liftedLines template n seen open? ls).map glue := by
  induction ls generalizing n seen open? with
  | nil => cases open? <;> rfl
  | cons span rest ih =>
    cases open? with
    | some p =>
      obtain ⟨r, content⟩ := p
      rw [Option.map_some, liftSpans, liftedLines]
      cases hn : r.next? (trim span) with
      | some r' => simpa [hn] using ih (n + 1) seen (some (r', content ++ [span]))
      | none =>
        simp only
        split
        · rfl
        · have hrest := ih (n + 1) (r.name :: seen) none
          rw [Option.map_none] at hrest
          rw [hrest]
          cases liftedLines template (n + 1) (r.name :: seen) none rest <;> rfl
    | none =>
      rw [Option.map_none, liftSpans, liftedLines]
      cases header? RegionKind.sections.keyword (trim span) with
      | some name =>
        cases name with
        | nil => rfl
        | cons c name => exact ih (n + 1) seen (some (⟨capitalize (c :: name), n, 1⟩, []))
      | none =>
        have hrest := ih (n + 1) seen none
        rw [Option.map_none] at hrest
        simp only [hrest]
        cases liftedLines template (n + 1) seen none rest <;> rfl

theorem liftedLines_of_no_header {ls : List Text}
    (h : ∀ l ∈ ls, header? RegionKind.sections.keyword (trim l) = none) (template : Text) (n : Nat)
    (seen : List Text) : liftedLines template n seen none ls = .ok (ls, []) := by
  induction ls generalizing n with
  | nil => rfl
  | cons span rest ih =>
    rw [liftedLines, h span List.mem_cons_self]
    simp only [ih (fun l hl => h l (List.mem_cons_of_mem span hl))]
    rfl

/-! ## Lines that no pass tells apart -/

/-- Two lines that every open region and every search for a header takes alike. -/
structure Indistinct (l l' : Text) : Prop where
  next : ∀ r : OpenRegion, r.next? (trim l) = r.next? (trim l')
  header : ∀ k : RegionKind, header? k.keyword (trim l) = header? k.keyword (trim l')

theorem keptLines_related {R : Text → Text → Prop} (hR : ∀ l l', R l l' → Indistinct l l')
    {ls ls' : List Text} (h : List.Forall₂ R ls ls') (template : Text) (n : Nat)
    (open? : Option OpenRegion) :
    SameResult (List.Forall₂ R) (keptLines template n open? ls)
      (keptLines template n open? ls') := by
  induction h generalizing n open? with
  | nil =>
    cases open? with
    | none => exact .ok .nil
    | some r => exact .error _
  | cons hl hs ih =>
    cases open? with
    | some r =>
      rw [keptLines, keptLines, (hR _ _ hl).next r]
      exact ih _ _
    | none =>
      rw [keptLines, keptLines, (hR _ _ hl).header .blocks]
      split
      · exact ih _ _
      · exact (ih _ _).map fun _ _ h => .cons hl h

/-- Related lines outside sections; the sections have the same names and related lines. -/
def LiftedRelated (R : Text → Text → Prop) (a b : List Text × List (Text × List Text)) : Prop :=
  List.Forall₂ R a.1 b.1 ∧ List.Forall₂ (fun s s' => s.1 = s'.1 ∧ List.Forall₂ R s.2 s'.2) a.2 b.2

theorem liftedLines_related {R : Text → Text → Prop} (hR : ∀ l l', R l l' → Indistinct l l')
    {ls ls' : List Text} (h : List.Forall₂ R ls ls') (template : Text) (n : Nat)
    (seen : List Text) {open? open?' : Option (OpenRegion × List Text)}
    (ho : Option.Rel (fun p p' => p.1 = p'.1 ∧ List.Forall₂ R p.2 p'.2) open? open?') :
    SameResult (LiftedRelated R) (liftedLines template n seen open? ls)
      (liftedLines template n seen open?' ls') := by
  -- the open regions are the same; what they have collected is only related
  induction h generalizing n seen open? open?' with
  | nil =>
    cases ho with
    | none => exact .ok ⟨.nil, .nil⟩
    | some hp =>
      rw [liftedLines, liftedLines, hp.1]
      exact .error _
  | @cons l l' ls ls' hl hs ih =>
    cases ho with
    | @some p p' hp =>
      obtain ⟨r, content⟩ := p
      obtain ⟨r', content'⟩ := p'
      obtain ⟨rfl, hc⟩ := hp
      rw [liftedLines, liftedLines, (hR _ _ hl).next r]
      cases r.next? (trim l') with
      | some r₁ => exact ih _ _ (.some ⟨rfl, List.rel_append hc (.cons hl .nil)⟩)
      | none =>
        simp only
        split
        · exact .error _
        · exact (ih _ _ .none).map fun _ _ h => ⟨h.1, .cons ⟨rfl, hc⟩ h.2⟩
    | none =>
      rw [liftedLines, liftedLines, (hR _ _ hl).header .sections]
      split
      · exact .error _
      · exact ih _ _ (.some ⟨rfl, .nil⟩)
      · exact (ih _ _ .none).map fun _ _ h => ⟨.cons hl h.1, h.2⟩

/-! ## Both passes -/

/-- What both passes make of the lines of a body. -/
def regionLines (template : Text) (ls : List Text) :
    Except CompileError (List Text × List (Text × List Text)) :=
  (keptLines template 1 none ls).bind (liftedLines template 1 [] none)

theorem regionLines_of_no_header {ls : List Text}
    (h : ∀ l ∈ ls, ∀ k : RegionKind, header? k.keyword (trim l) = none) (template : Text) :
    regionLines template ls = .ok (ls, []) := by
  rw [regionLines, keptLines_of_no_header (fun l hl => h l hl .blocks)]
  exact liftedLines_of_no_header (fun l hl => h l hl .sections) template 1 []

theorem regionLines_related {R : Text → Text → Prop} (hR : ∀ l l', R l l' → Indistinct l l')
    {ls ls' : List Text} (h : List.Forall₂ R ls ls') (template : Text) :
    SameResult (LiftedRelated R) (regionLines template ls) (regionLines template ls') := by
  refine (keptLines_related hR h template 1 none).bind fun ks ks' hks => ?_
  exact liftedLines_related hR hks template 1 [] .none

end GoTemplate
