/-
  One name for the file and for the function.

  A template has one stem, and two readings find it.  The function's name comes from the path: the
  file name without `.gohtml`, else the path's own stem.  The generated file's name comes from the
  file name alone, taken for a path of its own.

  1. A path is read from the RIGHT, a segment at a time: one that leads nowhere is passed over, and
     the first that does is the file name, unless it is `..` (`fileName?_append`,
     `fileName?_of_not_mem`).  So a file name is one segment that leads somewhere (`IsName`).
  2. Such a segment, read as a path, is its own file name (`IsName.fileName?_eq`), and the two
     readings come to the same (`functionStem_eq`, `outputFileName_eq`).
  3. The generated file's name is a file name again, so it is the one of the place it is written to,
     wherever that is (`fileName?_join`).
-/
import GoTemplate.Job
import GoTemplate.Proofs.TextCuts

namespace GoTemplate.Path

/-! ## File names -/

/-- A segment that names a file: it leads somewhere, and not upwards. -/
structure IsName (file : Text) : Prop where
  slash : '/' ∉ file
  leads : isSkipped file = false
  below : file ≠ "..".toList

theorem settled_concat (ss : List Text) (s : Text) :
    settled (ss ++ [s]) = if isSkipped s then settled ss else ss ++ [s] := by
  simp only [settled, List.reverse_append, List.reverse_singleton, List.singleton_append,
    List.dropWhile_cons]
  split
  · rfl
  · simp

/-- The file name of a path that is one segment. -/
theorem fileName?_of_not_mem {p : Text} (h : '/' ∉ p) :
    fileName? p = if isSkipped p then none else if p = "..".toList then none else some p := by
  have hsettled : settled (segments p) = if isSkipped p then [] else [p] := by
    rw [segments, splitOn_of_not_mem h]
    exact settled_concat [] p
  rw [fileName?, hsettled]
  cases isSkipped p <;> rfl

/-- **One step from the right**: a last segment that leads nowhere is passed over. -/
theorem fileName?_append {y : Text} (x : Text) (h : '/' ∉ y) :
    fileName? (x ++ '/' :: y)
      = if isSkipped y then fileName? x else if y = "..".toList then none else some y := by
  have hsettled : settled (segments (x ++ '/' :: y))
      = if isSkipped y then settled (segments x) else segments x ++ [y] := by
    rw [segments, splitOn_append h]
    exact settled_concat (segments x) y
  rw [fileName?, hsettled]
  cases isSkipped y with
  | true => rfl
  | false => simp only [Bool.false_eq_true, if_false, List.getLast?_concat]

theorem IsName.fileName?_eq {file : Text} (h : IsName file) : fileName? file = some file := by
  rw [fileName?_of_not_mem h.slash, h.leads, if_neg Bool.false_ne_true, if_neg h.below]

theorem IsName.fileName?_append {file : Text} (h : IsName file) (x : Text) :
    fileName? (x ++ '/' :: file) = some file := by
  rw [Path.fileName?_append x h.slash, h.leads, if_neg Bool.false_ne_true, if_neg h.below]

/-- **The file name of a path is the name of a file.** -/
theorem isName_of_fileName? {p file : Text} (h : fileName? p = some file) : IsName file := by
  -- both equations end in the same choice for the segment they look at
  have hsegment : ∀ {y : Text}, '/' ∉ y → isSkipped y = false →
      (if y = "..".toList then none else some y) = some file → IsName file := by
    intro y hslash hleads hname
    split at hname
    · cases hname
    · next hbelow =>
      cases hname
      exact ⟨hslash, hleads, hbelow⟩
  induction hlength : p.length using Nat.strong_induction_on generalizing p with
  | _ n ih =>
  by_cases hslash : '/' ∈ p
  · obtain ⟨x, y, rfl, hy⟩ := exists_last_of_mem hslash
    rw [fileName?_append x hy] at h
    split at h
    · refine ih x.length ?_ h rfl
      rw [← hlength, List.length_append, List.length_cons]
      omega
    · next hleads => exact hsegment hy (eq_false_of_ne_true hleads) h
  · rw [fileName?_of_not_mem hslash] at h
    split at h
    · cases h
    · next hleads => exact hsegment hslash (eq_false_of_ne_true hleads) h

/-- A file name put behind any path is the file name of the two together. -/
theorem fileName?_join {file : Text} (h : IsName file) (base : Text) :
    fileName? (join base file) = some file := by
  have habsolute : isAbsolute file = false := by
    rw [isAbsolute, beq_eq_false_iff_ne]
    intro hhead
    exact h.slash (List.mem_of_head? hhead)
  rw [join, habsolute, if_neg Bool.false_ne_true]
  split
  · next hbase =>
    rw [Bool.or_eq_true, List.isEmpty_iff, beq_iff_eq] at hbase
    rcases hbase with rfl | hlast
    · exact h.fileName?_eq
    · obtain ⟨front, rfl⟩ := List.getLast?_eq_some_iff.1 hlast
      rw [List.append_assoc]
      exact h.fileName?_append front
  · exact h.fileName?_append base

/-! ## Stems -/

/-- What is left of a file name: nothing but the template's extension goes, or else the last
    extension, where a dot at the start begins none. -/
inductive IsStem (file : Text) : Text → Prop
  | template {s : Text} (h : file = s ++ templateExtension) : IsStem file s
  | extension {s ext : Text} (hforeign : ¬templateExtension <:+ file) (hs : s ≠ [])
      (hext : '.' ∉ ext) (h : file = s ++ '.' :: ext) : IsStem file s
  | bare (hforeign : ¬templateExtension <:+ file) (h : '.' ∉ file.tail) : IsStem file file

/-- A file name without `.gohtml`, or else without its last extension. -/
def stem (file : Text) : Text := (before? templateExtension file).getD (withoutExtension file)

theorem isStem_stem (file : Text) : IsStem file (stem file) := by
  rw [stem]
  cases hbefore : before? templateExtension file with
  | some s => exact .template (eq_append_of_before? hbefore)
  | none =>
    have hforeign : ¬templateExtension <:+ file := by
      rintro ⟨s, rfl⟩
      rw [before?_append] at hbefore
      cases hbefore
    show IsStem file (withoutExtension file)
    rw [withoutExtension]
    by_cases hdot : '.' ∈ file
    · obtain ⟨s, ext, rfl, hext⟩ := exists_last_of_mem hdot
      rw [cutLast?_append hext]
      cases s with
      | nil => exact .bare hforeign hext
      | cons c s => exact .extension hforeign (List.cons_ne_nil c s) hext rfl
    · rw [cutLast?_of_not_mem hdot]
      exact .bare hforeign fun h => hdot (List.mem_of_mem_tail h)

theorem IsStem.isPrefix {file s : Text} (h : IsStem file s) : s <+: file := by
  cases h with
  | template h => exact ⟨_, h.symm⟩
  | extension _ _ _ h => exact ⟨_, h.symm⟩
  | bare _ _ => exact List.prefix_rfl

/-- The function is named after the stem of the file name. -/
theorem functionStem_eq {template file : Text} (h : fileName? template = some file) :
    functionStem template = stem file := by
  rw [functionStem, fileStem?, h]
  rfl

/-- So is the generated file, though it looks at the file name alone. -/
theorem outputFileName_eq {template file : Text} (h : fileName? template = some file) :
    outputFileName template = stem file ++ ".go".toList := by
  have hself := (isName_of_fileName? h).fileName?_eq
  rw [outputFileName, h]
  show (before? templateExtension file).getD ((fileStem? file).getD file) ++ _ = _
  rw [fileStem?, hself]
  rfl

/-- What is generated from a stem is the name of a file, also from an empty one. -/
theorem isName_append_go {s : Text} (h : '/' ∉ s) : IsName (s ++ ".go".toList) := by
  have hlast : (s ++ ".go".toList).getLast? = some 'o' := by
    rw [List.getLast?_append]
    rfl
  refine ⟨?_, ?_, ?_⟩
  · rw [List.mem_append, not_or]
    exact ⟨h, by decide⟩
  · rw [isSkipped, Bool.or_eq_false_iff, beq_eq_false_iff_ne, List.isEmpty_eq_false_iff]
    constructor
    · intro hnil
      rw [hnil] at hlast
      cases hlast
    · intro hdot
      rw [hdot] at hlast
      exact absurd hlast (by decide)
  · intro hdots
    rw [hdots] at hlast
    exact absurd hlast (by decide)

/-- **The generated file and the generated function are named after one stem.**  For a template
    path with a file name there is one stem of that name: the file is called by it with `.go`, the
    function by it as it is or capitalised, and the file goes into the configured directory, where
    its name is the file name of the whole path. -/
theorem names_share_stem (template file : Text) (h : fileName? template = some file) :
    ∃! s : Text, IsStem file s ∧ '/' ∉ s
      ∧ outputFileName template = s ++ ".go".toList
      ∧ (∀ options, (Job.ofPath template options).name
          = if options.keepName then s else capitalize s)
      ∧ ∀ base dir,
          resolveOutput none (some dir) base template
            = some (join (join base dir) (s ++ ".go".toList))
          ∧ fileName? (join (join base dir) (s ++ ".go".toList)) = some (s ++ ".go".toList) := by
  have hstem := isStem_stem file
  have hslash : '/' ∉ stem file := fun hmem =>
    (isName_of_fileName? h).slash (hstem.isPrefix.subset hmem)
  have hfile := outputFileName_eq h
  refine ⟨stem file, ⟨hstem, hslash, hfile, fun options => ?_, fun base dir => ⟨?_, ?_⟩⟩, ?_⟩
  · rw [Job.ofPath, functionStem_eq h]
  · rw [← hfile]
    rfl
  · exact fileName?_join (isName_append_go hslash) _
  · rintro s ⟨-, -, hs, -⟩
    exact List.append_cancel_right (hs.symm.trans hfile)

/-- Slashes and a dot behind the file name, and two dots in it. -/
theorem names_share_stem_dotted :
    let template := "/views//card.v1.html/.//".toList
    fileName? template = some "card.v1.html".toList
      ∧ ∃ s, s = "card.v1".toList ∧ outputFileName template = s ++ ".go".toList
        ∧ (Job.ofPath template {}).name = "Card.v1".toList
        ∧ (Job.ofPath template { keepName := true }).name = s
        ∧ resolveOutput none (some "gen/".toList) "/p".toList template
          = some "/p/gen/card.v1.go".toList := by
  have hname : fileName? "/views//card.v1.html/.//".toList = some "card.v1.html".toList := by
    decide
  obtain ⟨s, ⟨-, -, hfile, hfunction, hplace⟩, -⟩ := names_share_stem _ _ hname
  have hs : s = "card.v1".toList := by
    have hgo : outputFileName "/views//card.v1.html/.//".toList
        = "card.v1".toList ++ ".go".toList := by decide
    exact List.append_cancel_right (hfile.symm.trans hgo)
  have hcapital : capitalize s = "Card.v1".toList := by
    rw [hs]
    decide +kernel
  refine ⟨hname, s, hs, hfile, (hfunction {}).trans hcapital, hfunction { keepName := true }, ?_⟩
  rw [(hplace "/p".toList "gen/".toList).1, hs]
  rfl

end GoTemplate.Path
