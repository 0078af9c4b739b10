/-
  The walk over a template tree.

  Markup tokens become literals, control tokens statements, expression tokens framed pieces of a
  write.  The FIRST node of the tree that is no program decides: if it is a control node, its text
  is not body but declarations.  Its children are walked into an empty buffer, the buffer's text is
  read as declarations, and the body goes on where it was.

  A control node whose first and last children are the braces `{` and `}` stands for what is
  between them.
-/
import GoTemplate.Text
import GoTemplate.Template.Node
import GoTemplate.Draft

namespace GoTemplate

/-- The children are wrapped in a pair of brace tokens. -/
def hasBracePair : List Child → Bool
  | .token first :: rest =>
    match rest.getLast? with
    | some (.token last) => first.text == ['\x7b'] && last.text == ['\x7d']
    | _ => false
  | _ => false

/-- After the first node has been walked into an empty buffer: put the body `parts` back, and read
    what was collected as declarations. -/
def Job.absorb (job : Job) (parts : Buffer) : Outcome → Outcome
  | .error h => .error { h with draft := { h.draft with parts } }
  | .ok d => { d with parts }.declare job.template d.parts.flatten

mutual

/-- Visit a node; `enclosing` is the mode of the node around it. -/
def Job.visit (job : Job) (enclosing : Option Mode) : Node → Draft → Outcome
  | .program children, d => job.visitNodes children d
  | .markup children, d => job.visitMarkup children { d with firstNodeSeen := true }
  | .control _ children, d =>
    if d.firstNodeSeen then job.visitControl (hasBracePair children) true children d
    else
      job.absorb d.parts
        (job.visitControl (hasBracePair children) true children
          { d with parts := [], firstNodeSeen := true })
  | .expression _ children, d =>
    job.visitExpression ⟨0, children.length, !anyNonExpression children, enclosing == some .expression⟩
      children { d with firstNodeSeen := true }
termination_by structural n => n

/-- The nodes of a program. -/
def Job.visitNodes (job : Job) : List Node → Draft → Outcome
  | [], d => .ok d
  | n :: rest, d => (job.visit (some .program) n d).bind (job.visitNodes rest)
termination_by structural ns => ns

/-- The children of a markup node. -/
def Job.visitMarkup (job : Job) : List Child → Draft → Outcome
  | [], d => .ok d
  | .token t :: rest, d => job.visitMarkup rest (d.push .literal t.value)
  | .node n :: rest, d => (job.visit (some .markup) n d).bind (job.visitMarkup rest)
termination_by structural cs => cs

/-- The children of a control node.  If they are `braced`, the first of them (`atStart`) and the
    last are left out. -/
def Job.visitControl (job : Job) (braced atStart : Bool) : List Child → Draft → Outcome
  | [], d => .ok d
  | c :: rest, d =>
    if braced && (atStart || rest.isEmpty) then job.visitControl braced false rest d
    else match c with
      | .token t => job.visitControl braced false rest (d.push .control t.value)
      | .node n => (job.visit (some .control) n d).bind (job.visitControl braced false rest)
termination_by structural cs => cs

/-- The children of an expression; `slot` is the place of the first of them. -/
def Job.visitExpression (job : Job) (slot : Slot) : List Child → Draft → Outcome
  | [], d => .ok d
  | .token t :: rest, d =>
    job.visitExpression { slot with index := slot.index + 1 } rest (d.interpolate job t slot)
  | .node n :: rest, d =>
    (job.visit (some .expression) n d).bind
      (job.visitExpression { slot with index := slot.index + 1 } rest)
termination_by structural cs => cs

end

end GoTemplate
