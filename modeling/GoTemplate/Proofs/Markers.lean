/-
  Markers in front of an expression.

  A marker has no value, but it has a place: the token at place ZERO opens the frame and decides
  whether the expression is escaped.  Taking the markers in front of an expression away moves the
  next token to that place, and that changes the decision in one case only, where the expression
  has a wrapper and the token bypasses it (`leading_markers`).  With a marker in front there is no
  bypass: the empty value is no keyword, and no parameter has an empty name.
-/
import GoTemplate.Proofs.Contexts
import GoTemplate.Proofs.Declarations
import GoTemplate.Proofs.Frames

namespace GoTemplate

/-! ## The empty value -/

/-- With a marker at the decisive place an expression is escaped. -/
theorem needsEscape_nil {params : List Param} (h : ∀ p ∈ params, p.name ≠ []) (dir : Text) :
    needsEscape [] dir params = true := by
  have hkeyword : ([] : Text) ∉ bypassKeywords := by decide
  have hparam : params.any (fun p => p.name == []) = false := by
    rw [List.any_eq_false]
    intro p hp
    rw [beq_iff_eq]
    exact h p hp
  rw [needsEscape, if_neg hkeyword, hparam]
  simp

theorem Job.opened_named {job : Job} {root : Node} {d : Draft} (h : job.opened root = .ok d) :
    ∀ p ∈ d.params, p.name ≠ [] := by
  rw [Job.opened] at h
  split at h
  · cases h
    exact fun p hp => absurd hp List.not_mem_nil
  · refine Draft.declare_named h fun p hp => ?_
    have hnil : p ∈ (Draft.fresh job).params := by
      rwa [← Draft.takeAll_params job (Draft.fresh job)]
    exact absurd hnil List.not_mem_nil

theorem Job.paramsAt_named (job : Job) (c : Context) (root : Node) :
    ∀ p ∈ job.paramsAt c root, p.name ≠ [] := by
  rw [Job.paramsAt]
  split
  · exact fun p hp => absurd hp List.not_mem_nil
  · split
    · next d ho => exact Job.opened_named ho
    · exact fun p hp => absurd hp List.not_mem_nil

/-! ## Places -/

/-- The slot `k` places further on. -/
def Slot.advance (k : Nat) (s : Slot) : Slot := { s with index := s.index + k }

/-- The slot with `k` more children behind it. -/
def Slot.widen (k : Nat) (s : Slot) : Slot := { s with count := s.count + k }

theorem Slot.succ_advance (k : Nat) (s : Slot) : s.succ.advance k = s.advance (k + 1) := by
  simp only [Slot.advance, Slot.succ, Nat.add_assoc, Nat.add_comm 1 k]

/-- The slot with `k` more children before it. -/
def Slot.shift (k : Nat) (s : Slot) : Slot := (s.widen k).advance k

theorem Slot.shift_succ (k : Nat) (s : Slot) : (s.shift k).succ = s.succ.shift k := by
  simp only [Slot.shift, Slot.widen, Slot.advance, Slot.succ, Nat.add_right_comm]

section

variable (job : Job) (params : List Param)

theorem Slot.closing_shift (k : Nat) (s : Slot) (o : Options) :
    (s.shift k).closing o = s.closing o := by
  have hlast : (s.shift k).isLast = s.isLast := by
    rw [Bool.eq_iff_iff, Slot.isLast, Slot.isLast, beq_iff_eq, beq_iff_eq]
    show s.index + k + 1 = s.count + k ↔ s.index + 1 = s.count
    omega
  rw [Slot.closing, Slot.closing, hlast]
  rfl

/-- A marker that is not the last child adds the opening of the frame, if it is the first. -/
theorem Slot.leaf_of_marker {s : Slot} (hs : s.index + 1 < s.count) {m : Token}
    (hm : m.kind.isMarker = true) : s.leaf job params m
      = ⟨⟨.expression, s.opening job params []⟩, s.escapes job params []⟩ := by
  have hvalue : m.value = [] := by rw [Token.value, hm, if_pos rfl]
  have hlast : s.isLast = false := by
    rw [Slot.isLast, beq_eq_false_iff_ne]
    omega
  have hclosing : s.closing job.options = [] := by simp [Slot.closing, hlast]
  have hshown : shownValue [] = [] := by decide
  rw [Slot.leaf, hvalue, hclosing, hshown, List.append_nil, List.append_nil]

/-- Behind the first place it does not matter how many children came before. -/
theorem expressionLeaves_shift (k : Nat) (cs : List Child) {s : Slot} (hs : 0 < s.index) :
    expressionLeaves job params (s.shift k) cs = expressionLeaves job params s cs := by
  induction cs generalizing s with
  | nil => rfl
  | cons c cs ih =>
    have hrest := ih (s := s.succ) (Nat.succ_pos s.index)
    cases c with
    | node n => rw [expressionLeaves, expressionLeaves, Slot.shift_succ, hrest]
    | token t =>
      have hk : 0 < (s.shift k).index := Nat.lt_of_lt_of_le hs (Nat.le_add_right _ k)
      rw [expressionLeaves, expressionLeaves, Slot.shift_succ, hrest,
        Slot.leaf_of_pos job params hs, Slot.leaf_of_pos job params hk, Slot.closing_shift]

/-! ## Markers at the front -/

/-- A piece of an expression right behind another is part of it. -/
theorem SameEffect.join (v w : Text) (b : Bool) (ls : List Leaf) :
    SameEffect job (⟨⟨.expression, v⟩, b⟩ :: ⟨⟨.expression, w⟩, false⟩ :: ls)
      (⟨⟨.expression, v ++ w⟩, b⟩ :: ls) := by
  intro d
  have hpush : (d.take job ⟨⟨.expression, v⟩, b⟩).take job ⟨⟨.expression, w⟩, false⟩
      = d.take job ⟨⟨.expression, v ++ w⟩, b⟩ := by
    simp only [Draft.take, Draft.push, Buffer.push_push, Bool.false_eq_true, if_false]
  show Draft.takeAll job ((d.take job _).take job _) ls = _
  rw [hpush]
  rfl

/-- Markers that are neither first nor last add nothing. -/
theorem SameEffect.skip_markers (v : Text) (b : Bool) {ms : List Token}
    (hms : ∀ m ∈ ms, m.kind.isMarker = true) (cs : List Child) {s : Slot} (hs : 0 < s.index)
    (hcount : s.index + ms.length < s.count) :
    SameEffect job
      (⟨⟨.expression, v⟩, b⟩ :: expressionLeaves job params s (ms.map .token ++ cs))
      (⟨⟨.expression, v⟩, b⟩ :: expressionLeaves job params (s.advance ms.length) cs) := by
  -- the piece in front is carried along, because an empty piece vanishes only behind another
  induction ms generalizing s with
  | nil => exact .refl job _
  | cons m ms ih =>
    rw [List.length_cons] at hcount
    obtain ⟨hopening, hescapes⟩ := Slot.frame_of_pos job params hs []
    have hleaf : s.leaf job params m = ⟨⟨.expression, []⟩, false⟩ := by
      rw [Slot.leaf_of_marker job params (by omega) (hms m List.mem_cons_self), hopening, hescapes]
    have hnext : s.succ.index + ms.length < s.succ.count := by
      show s.index + 1 + ms.length < s.count
      omega
    have hrest := ih (fun x hx => hms x (List.mem_cons_of_mem m hx)) (Nat.succ_pos s.index) hnext
    intro d
    rw [List.map_cons, List.cons_append, expressionLeaves, hleaf, SameEffect.join job v [] b _ d,
      List.append_nil, hrest d, Slot.succ_advance, List.length_cons]

theorem Slot.first_of_tokens (enclosing : Option Mode) (ms : List Token) (cs : List Child) :
    Slot.first enclosing (ms.map .token ++ cs) = (Slot.first enclosing cs).widen ms.length := by
  have hany : anyNonExpression (ms.map .token ++ cs) = anyNonExpression cs := by
    induction ms with
    | nil => rfl
    | cons m ms ih => exact ih
  simp only [Slot.first, Slot.widen, hany, List.length_append, List.length_map, Nat.add_comm]

/-- **An expression with markers in front** has the frame of the empty value around its first
    token. -/
theorem leaves_of_markers (enclosing : Option Mode) (tagName : Text) {ms : List Token}
    (hms : ∀ m ∈ ms, m.kind.isMarker = true) (hne : ms ≠ []) (t : Token) (rest : List Child)
    {s : Slot} (hs : s = Slot.first enclosing (.token t :: rest)) :
    SameEffect job
      ((Node.expression tagName (ms.map .token ++ .token t :: rest)).leaves job params enclosing)
      (⟨⟨.expression, s.opening job params [] ++ shownValue t.value ++ s.closing job.options⟩,
        s.escapes job params []⟩ :: expressionLeaves job params s.succ rest) := by
  obtain ⟨m, ms, rfl⟩ := List.exists_cons_of_ne_nil hne
  have hindex : s.index = 0 := by rw [hs]; rfl
  have hcount : s.count = rest.length + 1 := by rw [hs]; rfl
  have hfirst := Slot.leaf_of_marker job params (s := s.widen (ms.length + 1)) (m := m)
    (by show s.index + 1 < s.count + (ms.length + 1); omega) (hms m List.mem_cons_self)
  have hskip := SameEffect.skip_markers job params (s.opening job params [])
    (s.escapes job params []) (fun x hx => hms x (List.mem_cons_of_mem m hx)) (.token t :: rest)
    (s := (s.widen (ms.length + 1)).succ) (Nat.succ_pos _)
    (by show s.index + 1 + ms.length < s.count + (ms.length + 1); omega)
  have hpos : 0 < (s.shift (ms.length + 1)).index := by
    show 0 < s.index + (ms.length + 1)
    omega
  intro d
  rw [Node.leaves, Slot.first_of_tokens, ← hs, List.length_cons, List.map_cons, List.cons_append,
    expressionLeaves, hfirst]
  -- the frame opens on the first marker and the others vanish; the token joins the opening
  calc d.takeAll job (⟨⟨.expression, s.opening job params []⟩, s.escapes job params []⟩ ::
        expressionLeaves job params (s.widen (ms.length + 1)).succ
          (ms.map .token ++ .token t :: rest))
    _ = d.takeAll job (⟨⟨.expression, s.opening job params []⟩, s.escapes job params []⟩ ::
        expressionLeaves job params (s.shift (ms.length + 1)) (.token t :: rest)) := by
      rw [hskip d, Slot.succ_advance]
      rfl
    _ = d.takeAll job (⟨⟨.expression, s.opening job params []
            ++ (shownValue t.value ++ s.closing job.options)⟩, s.escapes job params []⟩ ::
        expressionLeaves job params (s.shift (ms.length + 1)).succ rest) := by
      rw [expressionLeaves, Slot.leaf_of_pos job params hpos, Slot.closing_shift,
        SameEffect.join job _ _ _ _ d]
    _ = _ := by
      rw [Slot.shift_succ, expressionLeaves_shift job params _ rest (Nat.succ_pos s.index),
        List.append_assoc]

end

/-! ## The decision at the first place -/

/-- The number of characters in a buffer. -/
def Buffer.size (b : Buffer) : Nat := (b.flatMap (·.value)).length

theorem Buffer.size_push (b : Buffer) (k : FragmentKind) (v : Text) :
    (Buffer.push b k v).size = b.size + v.length := by
  match b with
  | [] => simp [Buffer.push, Buffer.size]
  | [f] =>
    by_cases h : f.kind = k
    · simp [Buffer.push, Buffer.size, h]
    · simp [Buffer.push, Buffer.size, h]
  | f :: g :: b =>
    have hrest := Buffer.size_push (g :: b) k v
    simp only [Buffer.size, Buffer.push, List.flatMap_cons, List.length_append] at hrest ⊢
    omega

theorem Draft.size_takeAll (job : Job) (d : Draft) (ls : List Leaf) :
    (d.takeAll job ls).parts.size = d.parts.size + (ls.flatMap (·.value)).length := by
  induction ls generalizing d with
  | nil => rfl
  | cons l ls ih =>
    have htake : (d.take job l).parts.size = d.parts.size + l.value.length :=
      Buffer.size_push d.parts l.kind l.value
    have hrest := ih (d.take job l)
    rw [htake, Nat.add_assoc, ← List.length_append] at hrest
    exact hrest

section

variable {job : Job} {params : List Param} {s : Slot}

/-- Values with the same decision have the same frame. -/
theorem Slot.frame_congr {v w : Text} (h : s.isWrapped job.options = true →
      needsEscape v job.dir params = needsEscape w job.dir params) :
    s.opening job params v = s.opening job params w
      ∧ s.escapes job params v = s.escapes job params w := by
  have hescapes : s.escapes job params v = s.escapes job params w := by
    rw [Slot.escapes, Slot.escapes]
    cases hw : s.isWrapped job.options with
    | false => rfl
    | true => rw [h hw]
  exact ⟨by rw [Slot.opening, Slot.opening, hescapes], hescapes⟩

/-- Values with frames of the same length have the same decision. -/
theorem Slot.decision_of_length (hs : s.index = 0) {v w : Text}
    (h : (s.opening job params v).length = (s.opening job params w).length)
    (hw : s.isWrapped job.options = true) :
    needsEscape v job.dir params = needsEscape w job.dir params := by
  have hfirst : s.isFirst = true := beq_iff_eq.2 hs
  have hcall := job.options.length_escapeCall
  rw [Slot.opening, Slot.opening, List.length_append, List.length_append] at h
  simp only [Slot.escapes, hw, hfirst, Bool.true_and, if_true] at h
  cases hv : needsEscape v job.dir params <;> cases hw : needsEscape w job.dir params
  · rfl
  · simp only [hv, hw, Bool.false_eq_true, if_false, if_true, List.length_singleton] at h
    omega
  · simp only [hv, hw, Bool.false_eq_true, if_false, if_true, List.length_singleton] at h
    omega
  · rfl

end

/-- What the walk over an expression makes of markers in front: the same draft exactly if the
    first token would be decided like the empty value, or there is no wrapper. -/
theorem Job.visit_markers_iff (job : Job) (enclosing : Option Mode) (tagName : Text)
    {ms : List Token} (hms : ∀ m ∈ ms, m.kind.isMarker = true) (hne : ms ≠ []) (t : Token)
    (rest : List Child) (d : Draft) :
    job.visit enclosing (.expression tagName (ms.map .token ++ .token t :: rest)) d
        = job.visit enclosing (.expression tagName (.token t :: rest)) d ↔
      ((Slot.first enclosing (.token t :: rest)).isWrapped job.options = true →
        needsEscape t.value job.dir d.params = needsEscape [] job.dir d.params) := by
  have hmarked := leaves_of_markers job d.params enclosing tagName hms hne t rest rfl
    { d with firstNodeSeen := true }
  rw [job.visit_expression, job.visit_expression, hmarked]
  constructor
  · intro h hw
    -- equal drafts hold equally many characters
    have hsize := congrArg (fun x : Draft => x.parts.size) (Except.ok.inj h)
    simp only [Draft.size_takeAll, Node.leaves, expressionLeaves, List.flatMap_cons,
      Slot.leaf, List.length_append] at hsize
    exact (Slot.decision_of_length rfl (by omega) hw).symm
  · intro h
    obtain ⟨hopening, hescapes⟩ := Slot.frame_congr h
    rw [Node.leaves, expressionLeaves, Slot.leaf, hopening, hescapes]

/-! ## Markers in a template -/

/-- With a marker in front, an expression with a wrapper opens the escape call. -/
theorem exists_escapes_of_markers (job : Job) {params : List Param}
    (hparams : ∀ p ∈ params, p.name ≠ []) (enclosing : Option Mode) (tagName : Text)
    {ms : List Token} (hms : ∀ m ∈ ms, m.kind.isMarker = true) (hne : ms ≠ []) (t : Token)
    (rest : List Child)
    (hw : (Slot.first enclosing (.token t :: rest)).isWrapped job.options = true) :
    ∃ l ∈ (Node.expression tagName (ms.map .token ++ .token t :: rest)).leaves job params enclosing,
      l.escapes = true := by
  obtain ⟨m, ms, rfl⟩ := List.exists_cons_of_ne_nil hne
  have hvalue : m.value = [] := by rw [Token.value, hms m List.mem_cons_self, if_pos rfl]
  rw [Node.leaves, Slot.first_of_tokens]
  refine ⟨_, List.mem_cons_self, ?_⟩
  show (_ && true && needsEscape m.value job.dir params) = true
  rw [hvalue, needsEscape_nil hparams, Bool.and_true, Bool.and_true]
  exact hw

/-- **Where leading markers matter.**  Take the markers in front of an expression away, anywhere
    in a template.  If the expression has no wrapper, or its first token does not bypass escaping,
    compilation yields the same error or the same output.  Nothing less will do: where nothing
    else requires the escape package, compilation yields the same only then, and the walk over the
    expression yields the same draft only if there is no wrapper or the first token is decided
    like the empty value. -/
theorem leading_markers (c : Context) (tagName : Text) {ms : List Token}
    (hms : ∀ m ∈ ms, m.kind.isMarker = true) (hne : ms ≠ []) (t : Token) (rest : List Child)
    (path : Text) (options : Options) :
    let job := Job.ofPath path options
    let marked := Node.expression tagName (ms.map .token ++ .token t :: rest)
    let bare := Node.expression tagName (.token t :: rest)
    let around := some (c.around .program)
    let wrapped := (Slot.first around (.token t :: rest)).isWrapped options
    let unbypassed := wrapped = true →
      needsEscape t.value job.dir (job.paramsAt c (c.plug marked)) = true
    (unbypassed → compile ⟨path, c.plug marked⟩ options = compile ⟨path, c.plug bare⟩ options)
    ∧ (∀ o, compile ⟨path, c.plug bare⟩ options = .ok o →
        options.namespacePath ∉ o.file.imports →
        (compile ⟨path, c.plug marked⟩ options = compile ⟨path, c.plug bare⟩ options
          ↔ unbypassed))
    ∧ ∀ d : Draft, job.visit around marked d = job.visit around bare d ↔
      (wrapped = true →
        needsEscape t.value job.dir d.params = needsEscape [] job.dir d.params) := by
  intro job marked bare around wrapped unbypassed
  have hnamed := job.paramsAt_named c (c.plug marked)
  have hsame : unbypassed →
      compile ⟨path, c.plug marked⟩ options = compile ⟨path, c.plug bare⟩ options := by
    intro h
    have hany : marked.hasNonExpression = bare.hasNonExpression :=
      Bool.not_inj (congrArg Slot.homogeneous (Slot.first_of_tokens around ms (.token t :: rest)))
    refine Context.compile_plug job rfl rfl hany c fun d => ?_
    let s := Slot.first around (.token t :: rest)
    let params := job.paramsAt c (c.plug marked)
    have hframe : s.opening job params t.value = s.opening job params []
        ∧ s.escapes job params t.value = s.escapes job params [] :=
      Slot.frame_congr fun hw => (h hw).trans (needsEscape_nil hnamed job.dir).symm
    rw [leaves_of_markers job params around tagName hms hne t rest rfl d, ← hframe.1, ← hframe.2]
    rfl
  refine ⟨hsame, fun o ho himport => ⟨fun heq hw => ?_, hsame⟩,
    job.visit_markers_iff around tagName hms hne t rest⟩
  -- the marked tree requires the escape package, so equal outputs would both import it
  obtain ⟨l, hl, he⟩ := exists_escapes_of_markers job hnamed around tagName hms hne t rest hw
  have hok : job.compile (c.plug marked) = .ok o := heq.trans ho
  obtain ⟨d, -, hopened, -⟩ := Job.exists_of_compile hok
  obtain ⟨ds, -, hmem⟩ := Job.mem_imports_iff hok options.namespacePath
  exact absurd (hmem.2 (.inr (.inr ⟨rfl, l, c.mem_walkedLeaves rfl hopened hl, he⟩))) himport

/-- The sign that leads into an expression. -/
def leadSign : Token := ⟨.atSign, ['@']⟩

/-- A layout with one parameter and, in its body, an interpolation. -/
def layoutBody : Context :=
  .program
    [.control [] [.token ⟨.other "CONTENT".toList, "var body string".toList⟩]]
    (.markup [.token ⟨.other "CONTENT".toList, "<p>".toList⟩] .here []) []

/-- In a layout, a name that is no parameter is escaped with and without the sign. -/
theorem lead_sign_of_title :
    (∀ m ∈ [leadSign], m.kind.isMarker = true) ∧
    compile ⟨"views/layout/base.gohtml".toList, layoutBody.plug
        (.expression [] [.token leadSign, .token ⟨.other "IDENTIFIER".toList, "title".toList⟩])⟩ {}
      = compile ⟨"views/layout/base.gohtml".toList, layoutBody.plug
        (.expression [] [.token ⟨.other "IDENTIFIER".toList, "title".toList⟩])⟩ {} := by
  have hms : ∀ m ∈ [leadSign], m.kind.isMarker = true := by decide
  refine ⟨hms, (leading_markers layoutBody [] hms (List.cons_ne_nil _ _)
    ⟨.other "IDENTIFIER".toList, "title".toList⟩ [] "views/layout/base.gohtml".toList {}).1
    fun _ => ?_⟩
  decide +kernel

/-- A call behind the word that asks for no escaping. -/
def rawCall : List Child :=
  [.token ⟨.other "IDENTIFIER".toList, "raw".toList⟩, .token ⟨.other "PAREN_OPEN".toList, ['(']⟩,
    .token ⟨.other "IDENTIFIER".toList, "x".toList⟩, .token ⟨.other "PAREN_CLOSE".toList, [')']⟩]

/-- Behind the sign the word is not heeded: the call is escaped. -/
theorem lead_sign_defeats_raw :
    compile ⟨"views/home/index.gohtml".toList,
        .program [.markup [.node (.expression [] (.token leadSign :: rawCall))]]⟩ {}
      ≠ compile ⟨"views/home/index.gohtml".toList,
        .program [.markup [.node (.expression [] rawCall)]]⟩ {} := by
  decide +kernel

end GoTemplate
