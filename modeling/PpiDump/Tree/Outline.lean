import PpiDump.Tree.Basic

namespace PpiDump

def Payload.outline : Payload → Text
  | .empty => []
  | .text content => [' ', '\''] ++ Text.escape content ++ ['\'']
  | .delimiters opening closing => [' ', opening, ' ', '.', '.', '.', ' ', closing]

def Node.outline (node : Node) : Text :=
  Text.ofNat node.id ++ [' '] ++ Text.spaces (2 * node.level) ++ node.kind.tag ++
    node.payload.outline ++ ['\n']

namespace Tree

def checkListed (t : Tree) (h : Handle) (lister child : Node) : Except Error Unit :=
  if child.parent = some h then .ok ()
  else .error (.parentMismatch child.id lister.id ((child.parent.bind t.get?).map Node.id))

def outlineTo (t : Tree) : Nat → Handle → Except Error Text
  | 0, _ => .error .endless
  | depth + 1, h =>
    match t.get? h with
    | none => .error .endless
    | some node => do
      let below ← node.children.toList.mapM fun c ↦ do
        match t.get? c with
        | none => .error .endless
        | some child =>
          t.checkListed h node child
          outlineTo t depth c
      return node.outline ++ below.flatten

/-- The outline of the whole tree. The root's own parent does not matter. -/
def outline (t : Tree) : Except Error Text :=
  match t.root? with
  | none => .error .noDocument
  | some h => t.outlineTo t.size h

end Tree

end PpiDump
