import Mathlib.Data.List.Forall2
import PpiDump.Proofs.Linked

namespace PpiDump

/-- A node holds what a record says. -/
structure Record.Describes (r : Record) (node : Node) : Prop where
  level : node.level = r.level
  kind : Kind.ofName? r.kind = some node.kind
  payload : Payload.decode node.kind.rule r.content node.id = .ok node.payload

namespace Builder

open Levels

/-- What a builder is fed: dump lines, and records that were read elsewhere. -/
inductive Feed where
  | line (t : Text)
  | record (r : Record)

def Feed.record? : Feed → Option Record
  | line t => Record.ofLine? t
  | record r => some r

def Feed.count (s : Stats) : Feed → Stats
  | line _ => s.countLine
  | record _ => s

def step (b : Builder) : Feed → Builder × Except Error (Option Handle)
  | .line t => b.addLine t
  | .record r => ((b.addRecord r).1, (b.addRecord r).2.map some)

/-- Feeding goes on after a refused record. -/
def run (b : Builder) : List Feed → Builder
  | [] => b
  | f :: fs => run (b.step f).1 fs

/-- The records that a builder accepts while it is fed. -/
def accepted (b : Builder) : List Feed → List Record
  | [] => []
  | f :: fs => (if (b.step f).2.isOk then f.record?.toList else []) ++ accepted (b.step f).1 fs

/-- A builder that has accepted the records `rs` and made the nodes `ns` of them. -/
structure Holds (b : Builder) (rs : List Record) (ns : List Node) : Prop where
  tree : b.tree = Tree.linked ns
  cursor : b.cursor = Cursor.after (levelsOf ns)
  stepped : Stepped (levelsOf ns)
  describes : List.Forall₂ Record.Describes rs ns
  ids : ns.map Node.id = List.range' 1 ns.length
  document : ∀ node ∈ ns.head?, node.kind.isDocument

variable {b : Builder} {rs : List Record} {ns : List Node} {r : Record} {node : Node} {e : Error}

theorem holds_empty : ({} : Builder).Holds [] [] where
  tree := rfl
  cursor := rfl
  stepped := stepped_nil
  describes := .nil
  ids := rfl
  document := by simp

theorem checkPlace_eq_ok_iff {depth? : Option Nat} {kind : Kind} {id : Nat} :
    checkPlace depth? kind r id = .ok () ↔
      match depth? with
      | none => r.level = 0 ∧ kind.isDocument
      | some depth => 0 < r.level ∧ r.level ≤ depth + 1 := by
  cases depth? with
  | none =>
    simp only [checkPlace]
    split <;> simp_all
  | some depth =>
    simp only [checkPlace]
    split
    · simp_all
    · split <;> simp <;> omega

theorem readNode_eq_ok {depth? : Option Nat} {line id : Nat}
    (h : readNode depth? line id r = .ok node) :
    node.bare = node ∧ r.Describes node ∧ node.id = id ∧ node.line = line ∧
      checkPlace depth? node.kind r id = .ok () := by
  unfold readNode at h
  cases hk : Kind.ofName? r.kind with
  | none => simp [hk] at h
  | some kind =>
    simp only [hk] at h
    cases hp : checkPlace depth? kind r id with
    | error e => rw [hp] at h; cases h
    | ok u =>
      cases hd : Payload.decode kind.rule r.content id with
      | error e => rw [hp, hd] at h; cases h
      | ok payload =>
        rw [hp, hd] at h
        cases h
        exact ⟨rfl, ⟨rfl, hk, hd⟩, rfl, rfl, hp⟩

theorem Feed.of_record?_none {f : Feed} (h : f.record? = none) :
    ∃ t, f = .line t ∧ Record.ofLine? t = none := by
  cases f with
  | line t => exact ⟨t, rfl, h⟩
  | record r => cases h

theorem step_of_record {f : Feed} (hf : f.record? = some r) (b : Builder) :
    (b.step f).1 = (addRecord { b with stats := f.count b.stats } r).1 ∧
      (b.step f).2 = (addRecord { b with stats := f.count b.stats } r).2.map some := by
  cases f with
  | line t =>
    have ht : Record.ofLine? t = some r := hf
    simp only [step, addLine, ht]
    exact ⟨rfl, rfl⟩
  | record r' =>
    obtain rfl : r' = r := Option.some.inj hf
    exact ⟨rfl, rfl⟩

/-- What a builder comes to with one item more, which it skips, refuses or makes a node of. -/
inductive Takes (b : Builder) (rs : List Record) (ns : List Node) :
    Feed → Builder → List Record → List Node → Prop
  | skipped {t : Text} (ht : Record.ofLine? t = none) :
      Takes b rs ns (.line t)
        { b with
          stats := b.stats.countLine.countSkipped
          skipped := b.skipped.push (b.stats.linesRead + 1, t) } rs ns
  | refused {f : Feed} {r : Record} (hf : f.record? = some r) :
      Takes b rs ns f { b with stats := f.count b.stats } rs ns
  | added {f : Feed} {r : Record} {node : Node} (hf : f.record? = some r)
      (hn : readNode (rs.getLast?.map Record.level) b.line (rs.length + 1) r = .ok node) :
      Takes b rs ns f
        { b with
          tree := Tree.linked (ns ++ [node])
          cursor := Cursor.after (levelsOf (ns ++ [node]))
          line := if r.hasNewlineEscape then b.line + 1 else b.line
          stats := (f.count b.stats).countNode } (rs ++ [r]) (ns ++ [node])

namespace Holds

theorem length_eq (h : b.Holds rs ns) : ns.length = rs.length := h.describes.length_eq.symm

theorem size_eq (h : b.Holds rs ns) : b.tree.size = ns.length := by
  rw [h.tree, Tree.linked_size]

theorem levels_eq (h : b.Holds rs ns) : levelsOf ns = rs.map Record.level := by
  have := h.describes
  clear h
  induction this with
  | nil => rfl
  | cons hd _ ih => simp [hd.level, ih]

theorem level_eq (h : b.Holds rs ns) : b.cursor.level = rs.getLast?.map Record.level := by
  rw [h.cursor, Cursor.after_level, h.levels_eq, List.getLast?_map]

theorem addRecord_error (h : b.Holds rs ns)
    (he : readNode (rs.getLast?.map Record.level) b.line (rs.length + 1) r = .error e) :
    b.addRecord r = (b, .error e) := by
  simp only [addRecord, h.level_eq, h.size_eq, h.length_eq, he]

theorem stepped_snoc (h : b.Holds rs ns)
    (hn : readNode (rs.getLast?.map Record.level) b.line (rs.length + 1) r = .ok node) :
    Stepped (levelsOf (ns ++ [node])) := by
  obtain ⟨-, hd, -, -, hp⟩ := readNode_eq_ok hn
  have hp := checkPlace_eq_ok_iff.mp hp
  rw [levelsOf_snoc]
  refine Levels.stepped_snoc.mpr ⟨h.stepped, ?_⟩
  rw [h.levels_eq, List.getLast?_map, hd.level]
  cases hl : rs.getLast? with
  | none => simpa [hl] using And.left (by simpa [hl] using hp)
  | some s => simpa [hl] using hp

theorem addRecord_ok (h : b.Holds rs ns)
    (hn : readNode (rs.getLast?.map Record.level) b.line (rs.length + 1) r = .ok node) :
    b.addRecord r =
      ({ b with
          tree := Tree.linked (ns ++ [node])
          cursor := Cursor.after (levelsOf (ns ++ [node]))
          line := if r.hasNewlineEscape then b.line + 1 else b.line
          stats := b.stats.countNode },
        .ok ns.length) := by
  obtain ⟨hb, hd, -, -, -⟩ := readNode_eq_ok hn
  have hs := h.stepped_snoc hn
  have hls := levelsOf_snoc ns node
  have hlen : (levelsOf ns).length = ns.length := List.length_map _
  have hmove := Cursor.move_after (hls ▸ hs)
  have hadvance := Cursor.advance_facing (hls ▸ hs)
  rw [hlen, ← hls] at hadvance
  simp only [addRecord, h.level_eq, h.size_eq, h.length_eq, hn]
  simp only [h.cursor, ← hd.level, hmove, ← h.length_eq, hadvance, h.tree,
    attach_linked hb hs]

theorem snoc (h : b.Holds rs ns)
    (hn : readNode (rs.getLast?.map Record.level) b.line (rs.length + 1) r = .ok node) :
    (b.addRecord r).1.Holds (rs ++ [r]) (ns ++ [node]) := by
  obtain ⟨-, hd, hid, -, hp⟩ := readNode_eq_ok hn
  rw [h.addRecord_ok hn]
  refine ⟨rfl, rfl, h.stepped_snoc hn, ?_, ?_, ?_⟩
  · exact List.rel_append h.describes (.cons hd .nil)
  · simp [h.ids, hid, h.length_eq, List.range'_concat, Nat.add_comm]
  · cases ns with
    | nil =>
      obtain rfl : rs = [] := List.length_eq_zero_iff.mp h.length_eq.symm
      simpa using (checkPlace_eq_ok_iff.mp hp).2
    | cons n ns => exact h.document

theorem of_eq (h : b.Holds rs ns) {b' : Builder} (ht : b'.tree = b.tree)
    (hc : b'.cursor = b.cursor) : b'.Holds rs ns :=
  { h with tree := ht ▸ h.tree, cursor := hc ▸ h.cursor }

theorem of_finish (h : b.Holds rs ns) {tree : Tree} {stats : Stats}
    (hf : b.finish = .ok (tree, stats)) : b.tree = tree ∧ b.stats = stats ∧ ns ≠ [] := by
  have hempty : b.tree.isEmpty = ns.isEmpty := by rw [h.tree, Tree.linked_isEmpty]
  unfold finish at hf
  split at hf
  · cases hf
  · cases hf
    refine ⟨rfl, rfl, ?_⟩
    rintro rfl
    exact absurd hempty ‹_›

theorem takes (h : b.Holds rs ns) (f : Feed) :
    ∃ ns', b.Takes rs ns f (b.step f).1 (rs ++ b.accepted [f]) ns' ∧
      (b.step f).1.Holds (rs ++ b.accepted [f]) ns' := by
  cases hf : f.record? with
  | none =>
    obtain ⟨t, rfl, ht⟩ := Feed.of_record?_none hf
    have haccepted : b.accepted [.line t] = [] := by simp [accepted, hf]
    refine ⟨ns, ?_⟩
    rw [haccepted, List.append_nil]
    simp only [Builder.step, addLine, ht]
    exact ⟨.skipped ht, h.of_eq rfl rfl⟩
  | some r =>
    have hcount : ({ b with stats := f.count b.stats } : Builder).Holds rs ns := h.of_eq rfl rfl
    obtain ⟨hstep, hanswer⟩ := b.step_of_record hf
    cases hn : readNode (rs.getLast?.map Record.level) b.line (rs.length + 1) r with
    | error e =>
      rw [hcount.addRecord_error hn] at hstep hanswer
      have haccepted : b.accepted [f] = [] := by
        simp [accepted, hanswer, Except.map, Except.isOk, Except.toBool]
      refine ⟨ns, ?_⟩
      rw [haccepted, List.append_nil, hstep]
      exact ⟨.refused hf, hcount⟩
    | ok node =>
      have hnext := hcount.snoc hn
      rw [hcount.addRecord_ok hn] at hstep hanswer hnext
      have haccepted : b.accepted [f] = [r] := by
        simp [accepted, hanswer, hf, Except.map, Except.isOk, Except.toBool]
      refine ⟨ns ++ [node], ?_⟩
      rw [haccepted, hstep]
      exact ⟨.added hf hn, hnext⟩

theorem step (h : b.Holds rs ns) (f : Feed) :
    ∃ ns', (b.step f).1.Holds (rs ++ b.accepted [f]) ns' := by
  obtain ⟨ns', -, h'⟩ := h.takes f
  exact ⟨ns', h'⟩

theorem run (h : b.Holds rs ns) (fs : List Feed) :
    ∃ ns', (b.run fs).Holds (rs ++ b.accepted fs) ns' := by
  induction fs generalizing b rs ns with
  | nil => exact ⟨ns, by simpa [accepted, Builder.run] using h⟩
  | cons f fs ih =>
    obtain ⟨ns', h'⟩ := h.step f
    obtain ⟨ns'', h''⟩ := ih h'
    refine ⟨ns'', ?_⟩
    simpa [accepted, Builder.run] using h''

end Holds

end Builder

end PpiDump
