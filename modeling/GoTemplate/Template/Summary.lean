/-
  Counts over a template tree, for a look at a document before it is compiled.

  The root is at depth zero and every node one deeper than the node around it; tokens have no
  depth.  A program whose first node is a control node is taken to start with declarations.
-/
import GoTemplate.Text
import GoTemplate.Template.Node

namespace GoTemplate

/-- Nodes by mode, tokens, and the greatest depth of a node. -/
structure Tally where
  markup : Nat := 0
  control : Nat := 0
  expression : Nat := 0
  tokens : Nat := 0
  depth : Nat := 0
deriving DecidableEq

/-- A node at this depth has been met. -/
def Tally.reach (t : Tally) (depth : Nat) : Tally := { t with depth := max t.depth depth }

mutual

/-- Count a node at a depth, and everything below it. -/
def Node.tally (depth : Nat) : Node → Tally → Tally
  | .program children, t => tallyNodes (depth + 1) children (t.reach depth)
  | .markup children, t =>
    tallyChildren (depth + 1) children { t.reach depth with markup := t.markup + 1 }
  | .control _ children, t =>
    tallyChildren (depth + 1) children { t.reach depth with control := t.control + 1 }
  | .expression _ children, t =>
    tallyChildren (depth + 1) children { t.reach depth with expression := t.expression + 1 }
termination_by structural n => n

/-- Count nodes at a depth. -/
def tallyNodes (depth : Nat) : List Node → Tally → Tally
  | [], t => t
  | n :: rest, t => tallyNodes depth rest (n.tally depth t)
termination_by structural ns => ns

/-- Count children whose nodes are at a depth. -/
def tallyChildren (depth : Nat) : List Child → Tally → Tally
  | [], t => t
  | .node n :: rest, t => tallyChildren depth rest (n.tally depth t)
  | .token _ :: rest, t => tallyChildren depth rest { t with tokens := t.tokens + 1 }
termination_by structural cs => cs

end

/-- What an inspection tells of a tree. -/
structure Summary where
  tally : Tally
  /-- The mode of the first node of a program. -/
  first : Option Mode
deriving DecidableEq

/-- The tree seems to start with declarations. -/
def Summary.hasDeclarations (s : Summary) : Bool := s.first == some .control

/-- Summarise a tree; only a program has a first node. -/
def Node.summary (root : Node) : Summary :=
  { tally := root.tally 0 {}
    first := match root with
      | .program (n :: _) => some n.mode
      | _ => none }

end GoTemplate
