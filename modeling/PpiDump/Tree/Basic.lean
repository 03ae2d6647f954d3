import PpiDump.Payload

namespace PpiDump

abbrev Handle := Nat

structure Node where
  id : Nat
  kind : Kind
  level : Nat
  line : Nat
  payload : Payload
  root : Handle := 0
  parent : Option Handle := none
  children : Array Handle := #[]
  prevSibling : Option Handle := none
  nextSibling : Option Handle := none
  prev : Option Handle := none
  next : Option Handle := none
  deriving DecidableEq, Repr

def Node.handle (node : Node) : Handle := node.id - 1

/-- The nodes in the order of the dump. A handle is a place in that order, counted from zero; the id
of a node is its handle plus one. -/
structure Tree where
  nodes : Array Node := #[]
  deriving DecidableEq, Repr, Inhabited

namespace Tree

def size (t : Tree) : Nat := t.nodes.size

def isEmpty (t : Tree) : Bool := t.nodes.isEmpty

def get? (t : Tree) (h : Handle) : Option Node := t.nodes[h]?

def root? (t : Tree) : Option Handle := if t.isEmpty then none else some 0

def parent? (t : Tree) (h : Handle) : Option Handle := (t.get? h).bind Node.parent

def next? (t : Tree) (h : Handle) : Option Handle := (t.get? h).bind Node.next

def children (t : Tree) (h : Handle) : Array Handle :=
  match t.get? h with
  | some node => node.children
  | none => #[]

def push (t : Tree) (node : Node) : Tree := ⟨t.nodes.push node⟩

def modify (t : Tree) (h : Handle) (f : Node → Node) : Tree := ⟨t.nodes.modify h f⟩

def modify? (t : Tree) (h? : Option Handle) (f : Node → Node) : Tree :=
  match h? with
  | some h => t.modify h f
  | none => t

end Tree

end PpiDump
