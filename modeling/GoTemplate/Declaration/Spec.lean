/-
  One declaration: an import or a parameter.

  * an import spec is an optional local name (an identifier or a dot) and a path in double quotes
    or in backticks, with nothing after it;
  * a variable spec is a list of names with commas and, after a blank, a type without `=`.  The
    names are read as far as a type is left: a comma that leaves none belongs to the type.
-/
import GoTemplate.Text
import GoTemplate.Import

namespace GoTemplate

/-- A parameter of the generated function. -/
structure Param where
  name : Text
  type : Text
deriving DecidableEq

/-- A parameter as a signature lists it. -/
def Param.render (p : Param) : Text := p.name ++ ' ' :: p.type

/-- What the first node of a template may declare. -/
inductive Declaration where
  | importing (i : Import)
  | param (p : Param)
deriving DecidableEq

/-! ## Imports -/

/-- A quoted path that is the whole text: not empty, no blank and none of `forbidden` in it. -/
def closedPath? (quote : Char) (forbidden : Char → Bool) (t : Text) : Option Text :=
  match t.span fun c => !(c == quote || isBlank c || forbidden c) with
  | (c :: path, [q]) => if q = quote then some (c :: path) else none
  | _ => none

/-- A path in double quotes, without backslashes, or in backticks. -/
def importPath? : Text → Option Text
  | c :: t =>
    if c = '"' then closedPath? '"' (· == '\\') t
    else if c = '\x60' then closedPath? '\x60' (fun _ => false) t
    else none
  | [] => none

/-- An identifier and what follows it. -/
def identifier? : Text → Option (Text × Text)
  | c :: t => if isIdentStart c then some (c :: t.takeWhile isIdentRest, t.dropWhile isIdentRest) else none
  | [] => none

/-- The local name at the start of an import spec, a dot or an identifier, and what follows it. -/
def localName? : Text → Option (Text × Text)
  | '.' :: t => some (['.'], t)
  | t => identifier? t

/-- An import spec.  The path is kept between double quotes, whatever quotes it had. -/
def importSpec? (spec : Text) : Option Declaration :=
  let t := trim spec
  let (name?, rest) := match localName? t with
    | some (name, rest) => (some name, trimStart rest)
    | none => (none, t)
  (importPath? rest).map fun path => .importing ⟨name?, '"' :: (path ++ ['"'])⟩

/-! ## Variables -/

/-- A comma and another name, blanks allowed around the comma. -/
def nextName? (t : Text) : Option (Text × Text) :=
  match trimStart t with
  | ',' :: r => identifier? (trimStart r)
  | _ => none

/-- A blank and then a type: some text without `=`. -/
def type? (t : Text) : Option Text :=
  match t with
  | [] => none
  | c :: _ =>
    let ty := trimStart t
    if isBlank c && !ty.isEmpty && !ty.contains '=' then some (trim ty) else none

theorem length_identifier? {t name rest : Text} (h : identifier? t = some (name, rest)) :
    rest.length < t.length := by
  cases t with
  | nil => simp [identifier?] at h
  | cons c t =>
    rw [identifier?] at h
    split at h
    · simp only [Option.some.injEq, Prod.mk.injEq] at h
      obtain ⟨_, rfl⟩ := h
      have := (List.dropWhile_suffix isIdentRest (l := t)).length_le
      simp only [List.length_cons]
      omega
    · simp at h

theorem length_trimStart_le (t : Text) : (trimStart t).length ≤ t.length :=
  (List.dropWhile_suffix isBlank).length_le

theorem length_nextName? {t name rest : Text} (h : nextName? t = some (name, rest)) :
    rest.length < t.length := by
  rw [nextName?] at h
  split at h
  · next r hr =>
    have h₁ := length_identifier? h
    have h₂ := length_trimStart_le r
    have h₃ := length_trimStart_le t
    simp only [hr, List.length_cons] at h₃
    omega
  · simp at h

/-- The further names and the type: as many names as leave a type. -/
def namesAndType? (t : Text) : Option (List Text × Text) :=
  match _h : nextName? t with
  | some (name, rest) =>
    match namesAndType? rest with
    | some (names, ty) => some (name :: names, ty)
    | none => (type? t).map ([], ·)
  | none => (type? t).map ([], ·)
termination_by t.length
decreasing_by exact length_nextName? _h

/-- A variable spec: one parameter for each name, all of the one type. -/
def varSpec? (spec : Text) : Option (List Declaration) := do
  let (name, rest) ← identifier? (trim spec)
  let (names, ty) ← namesAndType? rest
  return (name :: names).map fun n => .param ⟨n, ty⟩

example : importSpec? "m `kp/m` ".toList
    = some (.importing ⟨some "m".toList, "\"kp/m\"".toList⟩) := by decide
example : varSpec? "a, b []string".toList
    = some [.param ⟨"a".toList, "[]string".toList⟩, .param ⟨"b".toList, "[]string".toList⟩] := by
  decide +kernel
example : varSpec? "a , b".toList = some [.param ⟨"a".toList, ", b".toList⟩] := by decide +kernel

end GoTemplate
