import PpiDump.Tree.Basic

namespace PpiDump

/-- A node with all that it lists in turn. One that is listed twice occurs twice. -/
inductive Branch where
  | node (handle : Handle) (branches : List Branch)
  deriving Repr

namespace Branch

def handle : Branch → Handle
  | node h _ => h

mutual

def preorder : Branch → List Handle
  | node h bs => h :: preorderAll bs

def preorderAll : List Branch → List Handle
  | [] => []
  | b :: bs => preorder b ++ preorderAll bs

end

mutual

/-- What each node puts ahead of and behind all that is below it. -/
def wrap (ahead behind : Handle → Text) : Branch → Text
  | node h bs => ahead h ++ (wrapAll ahead behind bs ++ behind h)

def wrapAll (ahead behind : Handle → Text) : List Branch → Text
  | [] => []
  | b :: bs => wrap ahead behind b ++ wrapAll ahead behind bs

end

end Branch

namespace Tree

def unfoldTo (t : Tree) : Nat → Handle → Option Branch
  | 0, _ => none
  | depth + 1, h =>
    match t.get? h with
    | none => none
    | some node => (node.children.toList.mapM (unfoldTo t depth)).map (.node h)

/-- The unfolding below a node. Where it exists, no node occurs below itself, so it has no more
levels than the tree has nodes. -/
def unfolding? (t : Tree) (h : Handle) : Option Branch := t.unfoldTo t.size h

end Tree

end PpiDump
