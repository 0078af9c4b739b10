/-
  What a set of imports requires.

  Entries are kept in order, so requiring a spec walks to its place and rewrites or inserts there.
  Seen from outside nothing of that shows: requiring adds exactly one spec to those required, to
  require twice is to require once, and the order of requiring does not matter.  What does show is
  that entries put in their place stay in increasing order (`Ordered`), and so do those required.
-/
import GoTemplate.Import
import Mathlib.Data.Char
import Mathlib.Data.List.Lex

namespace GoTemplate.ImportSet

theorem mem_required_iff (set : ImportSet) (x : Text) :
    x ∈ set.required ↔ (x, true) ∈ set.entries := by
  simp [required]

/-- Putting a spec in its place changes what is known of no other spec. -/
theorem mem_update_of_ne {spec x : Text} (hx : x ≠ spec) (f : Option Bool → Bool) (b : Bool)
    (es : List (Text × Bool)) : (x, b) ∈ update spec f es ↔ (x, b) ∈ es := by
  induction es with
  | nil => simp [update, hx]
  | cons e es ih =>
    obtain ⟨s, c⟩ := e
    rw [update]
    split
    · next hs =>
      subst hs
      simp [hx]
    · split
      · simp [hx]
      · rw [List.mem_cons, List.mem_cons, ih]

theorem mem_required_require (set : ImportSet) (spec x : Text) :
    x ∈ (set.require spec).required ↔ x = spec ∨ x ∈ set.required := by
  have hself : ∀ es : List (Text × Bool), (spec, true) ∈ update spec (fun _ => true) es := by
    intro es
    induction es with
    | nil => exact List.mem_singleton.2 rfl
    | cons e es ih =>
      obtain ⟨s, c⟩ := e
      rw [update]
      split
      · next hs => rw [hs]; exact List.mem_cons_self
      · split
        · exact List.mem_cons_self
        · exact List.mem_cons_of_mem _ ih
  rw [mem_required_iff, mem_required_iff]
  by_cases hx : x = spec
  · subst hx
    exact ⟨fun _ => .inl rfl, fun _ => hself set.entries⟩
  · rw [require, mem_update_of_ne hx]
    exact ⟨.inr, fun h => h.resolve_left hx⟩

theorem mem_required_foldl (specs : List Text) (set : ImportSet) (x : Text) :
    x ∈ (specs.foldl require set).required ↔ x ∈ specs ∨ x ∈ set.required := by
  induction specs generalizing set with
  | nil => simp
  | cons spec specs ih =>
    rw [List.foldl_cons, ih, mem_required_require, List.mem_cons, or_left_comm, or_assoc]

/-- To require twice is to require once. -/
theorem require_require (set : ImportSet) (spec : Text) :
    (set.require spec).require spec = set.require spec := by
  have htwice : ∀ es : List (Text × Bool), update spec (fun _ => true)
      (update spec (fun _ => true) es) = update spec (fun _ => true) es := by
    intro es
    induction es with
    | nil => simp [update]
    | cons e es ih =>
      obtain ⟨s, c⟩ := e
      by_cases hs : spec = s
      · simp [update, hs]
      · by_cases hlt : spec < s
        · simp [update, hs, hlt]
        · simp [update, hs, hlt, ih]
  rw [require, require, htwice]

/-! ## The order of requiring -/

section

variable {spec s : Text} (f : Option Bool → Bool) (b : Bool) (es : List (Text × Bool))

theorem update_self : update s f ((s, b) :: es) = (s, f (some b)) :: es := by
  rw [update, if_pos rfl]

theorem update_of_lt (h : spec < s) :
    update spec f ((s, b) :: es) = (spec, f none) :: (s, b) :: es := by
  rw [update, if_neg (ne_of_lt h), if_pos h]

theorem update_of_gt (h : s < spec) :
    update spec f ((s, b) :: es) = (s, b) :: update spec f es := by
  rw [update, if_neg (ne_of_gt h), if_neg (not_lt_of_gt h)]

end

theorem update_comm_of_lt {x y : Text} (hxy : x < y) (f g : Option Bool → Bool)
    (es : List (Text × Bool)) : update x f (update y g es) = update y g (update x f es) := by
  induction es with
  | nil =>
    have hy : update y g [] = [(y, g none)] := rfl
    rw [hy, update_of_lt f _ _ hxy, show update x f [] = [(x, f none)] from rfl,
      update_of_gt g _ _ hxy, hy]
  | cons e es ih =>
    obtain ⟨s, b⟩ := e
    rcases lt_trichotomy s x with hs | rfl | hs
    · have hsy := hs.trans hxy
      rw [update_of_gt g b es hsy, update_of_gt f b es hs, update_of_gt f b _ hs,
        update_of_gt g b _ hsy, ih]
    · rw [update_of_gt g b es hxy, update_self, update_self, update_of_gt g _ es hxy]
    · rw [update_of_lt f b es hs, update_of_gt g _ _ hxy]
      rcases lt_trichotomy s y with hsy | rfl | hsy
      · rw [update_of_gt g b es hsy, update_of_lt f b _ hs]
      · rw [update_self, update_of_lt f _ es hs]
      · rw [update_of_lt g b es hsy, update_of_lt f _ _ hxy]

/-- The order of requiring does not matter. -/
theorem require_comm (set : ImportSet) (x y : Text) :
    (set.require x).require y = (set.require y).require x := by
  rcases lt_trichotomy x y with hxy | rfl | hxy
  · exact congrArg ImportSet.mk (update_comm_of_lt hxy _ _ set.entries).symm
  · rfl
  · exact congrArg ImportSet.mk (update_comm_of_lt hxy _ _ set.entries)

/-- Requiring a spec leaves the others as they are, in their order. -/
theorem filter_required_require (set : ImportSet) (spec : Text) :
    (set.require spec).required.filter (· != spec) = set.required.filter (· != spec) := by
  have hentries : ∀ es : List (Text × Bool),
      (((update spec (fun _ => true) es).filter (·.2)).map (·.1)).filter (· != spec)
        = ((es.filter (·.2)).map (·.1)).filter (· != spec) := by
    intro es
    induction es with
    | nil => simp [update]
    | cons e es ih =>
      obtain ⟨s, b⟩ := e
      rw [update]
      split
      · next hs => cases b <;> simp [hs]
      · split
        · simp
        · cases b <;> simp [List.filter_cons, ih]
  exact hentries set.entries

/-! ## Entries in increasing order -/

/-- Every spec stands once, and they increase. -/
def Ordered (set : ImportSet) : Prop := set.entries.Pairwise fun e e' => e.1 < e'.1

theorem pairwise_update (spec : Text) (f : Option Bool → Bool) {es : List (Text × Bool)}
    (h : es.Pairwise fun e e' => e.1 < e'.1) :
    (update spec f es).Pairwise fun e e' => e.1 < e'.1 := by
  induction es with
  | nil => exact List.pairwise_singleton _ _
  | cons e es ih =>
    obtain ⟨s, b⟩ := e
    obtain ⟨hs, hes⟩ := List.pairwise_cons.1 h
    rcases lt_trichotomy spec s with hlt | rfl | hgt
    · rw [update_of_lt f b es hlt]
      refine List.pairwise_cons.2 ⟨fun e he => ?_, h⟩
      rcases List.mem_cons.1 he with rfl | he
      · exact hlt
      · exact hlt.trans (hs e he)
    · rw [update_self]
      exact List.pairwise_cons.2 ⟨hs, hes⟩
    · rw [update_of_gt f b es hgt]
      refine List.pairwise_cons.2 ⟨fun e he => ?_, ih hes⟩
      -- an entry of the rest is the new one, or was there before
      by_cases hspec : e.1 = spec
      · rw [hspec]
        exact hgt
      · exact hs e ((mem_update_of_ne hspec f e.2 es).1 he)

theorem Ordered.require {set : ImportSet} (h : set.Ordered) (spec : Text) :
    (set.require spec).Ordered := pairwise_update spec _ h

theorem Ordered.foldl {set : ImportSet} (h : set.Ordered) (specs : List Text) :
    (specs.foldl ImportSet.require set).Ordered := by
  induction specs generalizing set with
  | nil => exact h
  | cons spec specs ih => exact ih (h.require spec)

theorem Ordered.declare {set : ImportSet} (h : set.Ordered) (spec : Text) :
    (set.declare spec).Ordered := pairwise_update spec _ h

/-- What is required of a set in order is in order. -/
theorem Ordered.required {set : ImportSet} (h : set.Ordered) :
    set.required.Pairwise (· < ·) := by
  rw [ImportSet.required, List.pairwise_map]
  exact h.filter _

end GoTemplate.ImportSet
