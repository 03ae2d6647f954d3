import PpiDump.Tree.Branch

namespace PpiDump

def follow (link : Handle → Option Handle) : Nat → Option Handle → List Handle
  | 0, _ => []
  | _ + 1, none => []
  | steps + 1, some h => h :: follow link steps (link h)

namespace Tree

/-- The nodes in dump order, by their links. A chain that ends visits no node twice. -/
def flat (t : Tree) : List Handle := follow t.next? t.size t.root?

def ancestors (t : Tree) (h : Handle) : List Handle := follow t.parent? t.size (t.parent? h)

def visit (t : Tree) : List Handle → Option (Handle × List Handle)
  | [] => none
  | h :: rest => some (h, (t.children h).toList ++ rest)

def walk (t : Tree) : Nat → List Handle → List Handle
  | 0, _ => []
  | steps + 1, stack =>
    match t.visit stack with
    | none => []
    | some (h, stack) => h :: walk t steps stack

def walkLength (t : Tree) (h : Handle) : Nat :=
  match t.unfolding? h with
  | some b => b.preorder.length
  | none => 0

/-- The nodes in tree order, from the root. A tree without an unfolding has none. -/
def preorder (t : Tree) : List Handle :=
  match t.root? with
  | some h => t.walk (t.walkLength h) [h]
  | none => []

end Tree

end PpiDump
