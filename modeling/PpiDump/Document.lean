import PpiDump.Tree.Basic

namespace PpiDump

structure Note where
  /-- What analysis found out, by key. Each key occurs once. -/
  context : List (Text × Text) := []
  output : Option Text := none
  closing : Option Text := none
  deriving DecidableEq, Repr, Inhabited

namespace Note

def find? (n : Note) (key : Text) : Option Text :=
  (n.context.find? fun e ↦ e.1 = key).map Prod.snd

def setKey (key value : Text) : List (Text × Text) → List (Text × Text)
  | [] => [(key, value)]
  | e :: es => if e.1 = key then (key, value) :: es else e :: setKey key value es

def set (n : Note) (key value : Text) : Note :=
  { n with context := setKey key value n.context }

end Note

abbrev Notes := Array Note

namespace Notes

def blank (t : Tree) : Notes := Array.replicate t.size {}

def note (ns : Notes) (h : Handle) : Note := ns[h]?.getD {}

def update (ns : Notes) (h : Handle) (f : Note → Note) : Notes := ns.modify h f

end Notes

structure Document where
  tree : Tree
  notes : Notes
  deriving DecidableEq, Repr

def Document.ofTree (t : Tree) : Document := ⟨t, Notes.blank t⟩

end PpiDump
