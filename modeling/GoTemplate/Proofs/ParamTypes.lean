/-
  Parameters that are accepted.

  A parameter has a name, and a type that is not empty, is trimmed, and holds no `=` and no line
  feed.  Whether its type begins with a comma depends on what stands behind the names of its spec
  (`behindNames`): the type of a spec begins with no comma exactly if a type follows the names
  (`head?_type_iff`).  Where none does, the names were given up for it from the last one on.
-/
import GoTemplate.Proofs.NameLists

namespace GoTemplate

/-! ## What follows the names -/

/-- What stands behind as many further names as there are. -/
def behindNames (t : Text) : Text :=
  match _h : nextName? t with
  | some (_, rest) => behindNames rest
  | none => t
termination_by t.length
decreasing_by exact length_nextName? _h

/-- Blanks, and then ink other than a comma. -/
structure StartsType (t : Text) : Prop where
  blank : ∃ c ∈ t.head?, isBlank c = true
  ink : ∃ c ∈ (trimStart t).head?, c ≠ ','

/-- A type follows the names of a variable spec. -/
def TypeFollows (u : Text) : Prop :=
  ∃ name rest, identifier? (trim u) = some (name, rest) ∧ StartsType (behindNames rest)

theorem behindNames_of_some {t name rest : Text} (h : nextName? t = some (name, rest)) :
    behindNames t = behindNames rest := by
  rw [behindNames]
  split
  · next hsome => rw [h] at hsome; cases hsome; rfl
  · next hnone => rw [h] at hnone; cases hnone

theorem behindNames_of_none {t : Text} (h : nextName? t = none) : behindNames t = t := by
  rw [behindNames]
  split
  · next hsome => rw [h] at hsome; cases hsome
  · rfl

theorem isBlank_of_trimStart {t r : Text} {c : Char} (h : trimStart t = c :: r) :
    isBlank c = false := by
  rw [Bool.eq_false_iff]
  intro hblank
  have hagain := trimStart_trimStart t
  rw [h, trimStart, List.dropWhile_cons_of_pos hblank] at hagain
  have hlength := (List.dropWhile_suffix (l := r) isBlank).length_le
  rw [hagain, List.length_cons] at hlength
  omega

theorem head?_trim (t : Text) : (trim t).head? = (trimStart t).head? := by
  rw [trim]
  cases h : trimStart t with
  | nil => rfl
  | cons c r =>
    have htrim : trimEnd (c :: r) = c :: trimEnd r :=
      trimEnd_append_cons (isBlank_of_trimStart h) [] r
    rw [htrim]
    rfl

theorem mem_trim {t : Text} {c : Char} (hc : c ∈ t) (hink : isBlank c = false) : c ∈ trim t := by
  have hstart : ∀ u : Text, c ∈ u → c ∈ u.dropWhile isBlank := by
    intro u hu
    rw [← List.takeWhile_append_dropWhile (p := isBlank) (l := u)] at hu
    rcases List.mem_append.1 hu with hu | hu
    · exact absurd (List.mem_takeWhile_imp hu) (by rw [hink]; exact Bool.false_ne_true)
    · exact hu
  have hend := hstart (trimStart t).reverse (List.mem_reverse.2 (hstart t hc))
  exact List.mem_reverse.2 hend

/-- A type that follows the names is found. -/
theorem exists_namesAndType? {t : Text} (hequals : '=' ∉ t) (h : StartsType (behindNames t)) :
    ∃ p, namesAndType? t = some p := by
  fun_induction namesAndType? t with
  | case1 t name rest hnext names ty hlater ih => exact ⟨_, rfl⟩
  | case2 t name rest hnext hnone ih =>
    obtain ⟨-, -, front, rfl, -⟩ := nextName?_eq hnext
    rw [behindNames_of_some hnext] at h
    obtain ⟨p, hp⟩ := ih (fun hmem => hequals (List.mem_append_right _ hmem)) h
    rw [hnone] at hp
    cases hp
  | case3 t hnext =>
    rw [behindNames_of_none hnext] at h
    obtain ⟨⟨c, hc, hblank⟩, ⟨d, hd, -⟩⟩ := h
    cases t with
    | nil => cases hc
    | cons c' t =>
      obtain rfl : c' = c := Option.some.inj hc
      have hne : trimStart (c' :: t) ≠ [] := by
        intro hnil
        rw [hnil] at hd
        cases hd
      obtain ⟨ty, hty⟩ := exists_type? hblank hne hequals
      exact ⟨_, congrArg (Option.map _) hty⟩

/-- **The type begins with no comma exactly if a type follows the names.** -/
theorem head?_type_iff {t ty : Text} {names : List Text}
    (h : namesAndType? t = some (names, ty)) :
    ty.head? ≠ some ',' ↔ StartsType (behindNames t) := by
  fun_induction namesAndType? t generalizing names ty with
  | case1 t name rest hnext names' ty' hlater ih =>
    cases h
    rw [behindNames_of_some hnext]
    exact ih hlater
  | case2 t name rest hnext hnone ih =>
    -- the names behind the comma are given up, so the type begins with that comma
    obtain ⟨ty', htype, he⟩ := Option.map_eq_some_iff.1 h
    cases he
    obtain ⟨rfl, -, hequals, -⟩ := type?_eq htype
    obtain ⟨-, hcomma, front, rfl, -⟩ := nextName?_eq hnext
    rw [behindNames_of_some hnext, head?_trim]
    constructor
    · exact fun hne => absurd hcomma hne
    · intro hstarts
      have hequals' : '=' ∉ rest := fun hmem =>
        hequals (mem_trim (List.mem_append_right _ hmem) (by decide))
      obtain ⟨p, hp⟩ := exists_namesAndType? hequals' hstarts
      rw [hnone] at hp
      cases hp
  | case3 t hnext =>
    obtain ⟨ty', htype, he⟩ := Option.map_eq_some_iff.1 h
    cases he
    obtain ⟨rfl, hne, -, hblank⟩ := type?_eq htype
    rw [behindNames_of_none hnext, head?_trim]
    constructor
    · intro hcomma
      have hne' : t ≠ [] := by
        rintro rfl
        cases htype
      obtain ⟨c, t', rfl⟩ := List.exists_cons_of_ne_nil hne'
      refine ⟨⟨c, rfl, hblank c rfl⟩, ?_⟩
      cases hstart : trimStart (c :: t') with
      | nil =>
        refine absurd ?_ hne
        rw [trim, hstart]
        rfl
      | cons d r =>
        rw [hstart] at hcomma
        exact ⟨d, rfl, fun hd => hcomma (congrArg some hd)⟩
    · rintro ⟨-, d, hd, hcomma⟩ hhead
      rw [hhead] at hd
      exact hcomma (Option.some.inj hd).symm

/-! ## Parameters of a text -/

/-- What holds of every parameter that is accepted. -/
structure Param.Accepted (p : Param) : Prop where
  name : isIdentifier p.name = true
  ne_nil : p.type ≠ []
  trimmed : trim p.type = p.type
  equals : '=' ∉ p.type
  newline : '\n' ∉ p.type

/-- A variable spec has at least one parameter, and all have the one type. -/
theorem varSpec?_comma_iff {u : Text} {ds : List Declaration} (h : varSpec? u = some ds) :
    (∃ p, .param p ∈ ds) ∧ ∀ p, .param p ∈ ds → (p.type.head? ≠ some ',' ↔ TypeFollows u) := by
  rw [varSpec?] at h
  obtain ⟨⟨name, rest⟩, hname, h⟩ := Option.bind_eq_some_iff.1 h
  obtain ⟨⟨names, ty⟩, hnames, h⟩ := Option.bind_eq_some_iff.1 h
  cases h
  refine ⟨⟨⟨name, ty⟩, List.mem_cons_self⟩, fun p hp => ?_⟩
  obtain ⟨n, -, he⟩ := List.mem_map.1 hp
  cases he
  rw [head?_type_iff hnames]
  constructor
  · exact fun hstarts => ⟨name, rest, hname, hstarts⟩
  · rintro ⟨name', rest', hname', hstarts⟩
    rw [hname] at hname'
    cases hname'
    exact hstarts

/-- A parameter of a text comes from an entry for variables. -/
theorem exists_vars_of_param {es : List Entry} {ds : List Declaration} (h : readAll? es = some ds)
    {p : Param} (hp : .param p ∈ ds) :
    ∃ u ds', ⟨.vars, u⟩ ∈ es ∧ varSpec? u = some ds' ∧ .param p ∈ ds' := by
  obtain ⟨⟨g, u⟩, he, ds', hread, hp'⟩ := exists_entry_of_mem h hp
  cases g with
  | imports =>
    obtain ⟨d, hd, rfl⟩ := Option.map_eq_some_iff.1 hread
    obtain ⟨name?, lit, rfl, -⟩ := importSpec?_eq hd
    cases List.mem_singleton.1 hp'
  | vars => exact ⟨u, ds', he, hread, hp'⟩

theorem Param.accepted_of_parse {t : Text} {ds : List Declaration}
    (h : parseDeclarations t = .ok ds) {p : Param} (hp : .param p ∈ ds) : p.Accepted := by
  obtain ⟨-, hread⟩ := (parseDeclarations_eq_ok_iff t ds).1 h
  obtain ⟨u, ds', he, hspec, hp⟩ := exists_vars_of_param hread hp
  obtain ⟨list, rfl, hsub, -⟩ := varSpec?_eq hspec
  obtain ⟨n, hn, he'⟩ := List.mem_map.1 hp
  cases he'
  exact ⟨list.idents n hn, list.ne_nil, list.trimmed, list.equals, fun hmem =>
    newline_not_mem_of_mem_textEntries he (hsub hmem)⟩

theorem types_without_comma_iff {t : Text} {ds : List Declaration}
    (h : parseDeclarations t = .ok ds) :
    (∀ p : Param, .param p ∈ ds → p.type.head? ≠ some ',')
      ↔ ∀ u, ⟨.vars, u⟩ ∈ textEntries t → TypeFollows u := by
  obtain ⟨-, hread⟩ := (parseDeclarations_eq_ok_iff t ds).1 h
  constructor
  · intro hcomma u hu
    obtain ⟨ds', hspec, hsub⟩ := exists_read_of_mem hread hu
    obtain ⟨⟨p, hp⟩, hiff⟩ := varSpec?_comma_iff hspec
    exact (hiff p hp).1 (hcomma p (hsub hp))
  · intro hfollows p hp
    obtain ⟨u, ds', hu, hspec, hp'⟩ := exists_vars_of_param hread hp
    exact ((varSpec?_comma_iff hspec).2 p hp').2 (hfollows u hu)

/-! ## Accepted parameters -/

/-- **Every parameter of an accepted text has a name and a type, and the type begins with no comma
    exactly if a type follows the names of every variable spec.**  Names without a type are refused
    if no comma on their first line has a blank in front of it, and on one line only then. -/
theorem params_well_formed (t : Text) (l : NameList) (place : VarPlace) :
    (∀ ds, parseDeclarations t = .ok ds →
      (∀ p : Param, .param p ∈ ds → p.Accepted)
        ∧ ((∀ p : Param, .param p ∈ ds → p.type.head? ≠ some ',')
            ↔ ∀ u, ⟨.vars, u⟩ ∈ textEntries t → TypeFollows u))
      ∧ (Unspaced l.further → Rejected (place.text l.text))
      ∧ ('\n' ∉ l.text → (Rejected (place.text l.text) ↔ Unspaced l.further)) := by
  have hrefused : Unspaced l.further → Rejected (place.text l.text) := fun h =>
    l.rejected_of_unspaced h place
  refine ⟨fun ds h => ⟨fun p hp => ?_, types_without_comma_iff h⟩, hrefused, fun hnewline => ?_⟩
  · exact Param.accepted_of_parse h hp
  · exact ⟨l.unspaced_of_rejected hnewline, hrefused⟩

/-- Two specs with a blank before a comma and a type behind it, and a group of names alone, the
    first line of which is unspaced. -/
theorem params_well_formed_two_lists :
    (∃ t ds, parseDeclarations t = .ok ds ∧ ds.length = 4
      ∧ (∀ p : Param, .param p ∈ ds → p.Accepted)
      ∧ ((∀ p : Param, .param p ∈ ds → p.type.head? ≠ some ',')
          ↔ ∀ u, ⟨.vars, u⟩ ∈ textEntries t → TypeFollows u))
      ∧ ∃ (l : NameList) (place : VarPlace), Unspaced l.further
          ∧ place.text l.text = "var (a,\nb , c)".toList ∧ Rejected (place.text l.text) := by
  have haccepted : parseDeclarations "var a , b []string // two\nvar (c , d map[int]bool)".toList
      = .ok [.param ⟨"a".toList, "[]string".toList⟩, .param ⟨"b".toList, "[]string".toList⟩,
          .param ⟨"c".toList, "map[int]bool".toList⟩,
          .param ⟨"d".toList, "map[int]bool".toList⟩] := by decide +kernel
  let second : FurtherName := ⟨[], ['\n'], ['b'], List.forall_mem_nil _,
    List.all_iff_forall_prop.1 rfl, by decide⟩
  let third : FurtherName := ⟨[' '], [' '], ['c'], List.all_iff_forall_prop.1 rfl,
    List.all_iff_forall_prop.1 rfl, by decide⟩
  let l : NameList := ⟨['a'], by decide, [second, third]⟩
  have hunspaced : Unspaced l.further := .inr ⟨rfl, .inl List.mem_cons_self⟩
  let place : VarPlace := .group .space ⟨[], .empty⟩ ⟨[], .empty⟩
  obtain ⟨hparams, hrefused, -⟩ := params_well_formed _ l place
  exact ⟨⟨_, _, haccepted, rfl, hparams _ haccepted⟩, l, place, hunspaced, by decide,
    hrefused hunspaced⟩

/-- **Names without a type are not always refused.**  With a blank in front of a comma, the comma
    and the names behind it pass for the type, behind the keyword as well as in a group. -/
theorem comma_passes_for_type :
    parseDeclarations "var a , b".toList = .ok [.param ⟨"a".toList, ", b".toList⟩]
      ∧ parseDeclarations "var (\na, b ,c\n)".toList
        = .ok [.param ⟨"a".toList, ",c".toList⟩, .param ⟨"b".toList, ",c".toList⟩] := by
  constructor <;> decide +kernel

end GoTemplate
