import PpiDump.Cursor
import PpiDump.Event
import PpiDump.Record
import PpiDump.Stats

namespace PpiDump

structure Builder where
  tree : Tree := {}
  cursor : Cursor := {}
  /-- The line of the source that the next node starts on. -/
  line : Nat := 1
  stats : Stats := {}
  skipped : Array (Nat × Text) := #[]
  deriving Repr

namespace Builder

def checkPlace (depth? : Option Nat) (kind : Kind) (record : Record) (id : Nat) :
    Except Error Unit :=
  match depth? with
  | none =>
    if record.level = 0 ∧ kind.isDocument then .ok ()
    else .error (.badRoot record.kind record.level)
  | some depth =>
    if record.level = 0 then .error (.secondRoot id)
    else if depth + 1 < record.level then .error (.levelJump id depth record.level)
    else .ok ()

def readNode (depth? : Option Nat) (line id : Nat) (record : Record) : Except Error Node :=
  match Kind.ofName? record.kind with
  | none => .error (.unknownKind record.kind)
  | some kind => do
    checkPlace depth? kind record id
    let payload ← Payload.decode kind.rule record.content id
    return { id, kind, level := record.level, line, payload }

/-- Puts a node at the end of the tree, below the parent the cursor holds, and ties it to its
neighbours. -/
def attach (tree : Tree) (cursor : Cursor) (node : Node) : Tree :=
  let handle := tree.size
  let sibling := cursor.parent.bind fun p ↦ (tree.children p).back?
  let node := {
    node with
    root := tree.root?.getD 0
    parent := cursor.parent
    prev := cursor.last
    prevSibling := sibling }
  (((tree.push node).modify? cursor.parent
        fun p ↦ { p with children := p.children.push handle }).modify? sibling
      fun s ↦ { s with nextSibling := some handle }).modify? cursor.last
    fun l ↦ { l with next := some handle }

def addRecord (b : Builder) (record : Record) : Builder × Except Error Handle :=
  let handle := b.tree.size
  match readNode b.cursor.level b.line (handle + 1) record with
  | .error e => (b, .error e)
  | .ok node =>
    let line := if record.hasNewlineEscape then b.line + 1 else b.line
    match b.cursor.move record.level with
    | (cursor, false) => ({ b with cursor, line }, .error (.secondRoot (handle + 1)))
    | (cursor, true) =>
      ({ b with
          tree := attach b.tree cursor node
          cursor := cursor.advance handle
          line
          stats := b.stats.countNode },
        .ok handle)

/-- Adds a line. One without a record is counted, kept as skipped, and answered by nothing. -/
def addLine (b : Builder) (line : Text) : Builder × Except Error (Option Handle) :=
  let b := { b with stats := b.stats.countLine }
  match Record.ofLine? line with
  | some record =>
    let (b, result) := b.addRecord record
    (b, result.map some)
  | none =>
    ({ b with
        stats := b.stats.countSkipped
        skipped := b.skipped.push (b.stats.linesRead, line) },
      .ok none)

/-- Feeds lines up to the first one that fails to arrive or to be added. -/
def feed (b : Builder) : List (Except Error Text) → Builder × Option Error
  | [] => (b, none)
  | .error e :: _ => (b, some e)
  | .ok line :: rest =>
    match b.addLine line with
    | (b, .error e) => (b, some e)
    | (b, .ok _) => feed b rest

def taken (b : Builder) : List (Except Error Text) → Nat
  | [] => 0
  | .error _ :: _ => 1
  | .ok line :: rest =>
    match b.addLine line with
    | (_, .error _) => 1
    | (b, .ok _) => b.taken rest + 1

def finish (b : Builder) : Except Error (Tree × Stats) :=
  if b.tree.isEmpty then .error .emptyDump else .ok (b.tree, b.stats)

def warnings (b : Builder) : List Event :=
  b.skipped.toList.map fun s ↦ .badLine s.1 s.2

end Builder

def Tree.ofLines? (lines : List Text) : Except Error (Tree × Stats) :=
  match ({} : Builder).feed (lines.map .ok) with
  | (_, some e) => .error e
  | (b, none) => b.finish

end PpiDump
