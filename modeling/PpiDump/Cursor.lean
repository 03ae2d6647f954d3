import PpiDump.Tree.Basic

namespace PpiDump

/-- The place in a growing tree where the next node goes: the last node, its level, the parent of
nodes at that level, and a stack of the parents further up, nearest first. The root holds the place
of its own parent, so it is at the bottom of the stack once more as soon as a level below it is
open. -/
structure Cursor where
  last : Option Handle := none
  level : Option Nat := none
  above : List Handle := []
  parent : Option Handle := none
  deriving DecidableEq, Repr

namespace Cursor

/-- Leaves the given number of levels. Stops early, answering `false`, when no level is left. -/
def rise : Nat → Cursor → Cursor × Bool
  | 0, c => (c, true)
  | n + 1, c =>
    match c.above with
    | [] => (c, false)
    | p :: above => rise n { c with above, parent := some p }

/-- Moves to where a node at `level` goes: below the last node if that is less deep, else up to its
level. -/
def move (c : Cursor) (level : Nat) : Cursor × Bool :=
  match c.level with
  | none => ({ c with level := some level }, true)
  | some depth =>
    if depth < level then
      ({ c with level := some level, above := c.parent.toList ++ c.above, parent := c.last }, true)
    else
      match rise (depth - level) c with
      | (c, true) => ({ c with level := some level }, true)
      | (c, false) => (c, false)

def advance (c : Cursor) (h : Handle) : Cursor :=
  { c with last := some h, parent := some (c.parent.getD h) }

end Cursor

end PpiDump
