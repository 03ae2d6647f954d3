import PpiDump.Converter
import PpiDump.Proofs.Growth

namespace PpiDump

def recordsOf (lines : List Text) : List Record := lines.filterMap Record.ofLine?

/-- The first error of records that follow those accepted `before`. -/
def firstError (before : List Record) : List Record → Option Error
  | [] => none
  | r :: rs =>
    match Builder.readNode (before.getLast?.map Record.level) 1 (before.length + 1) r with
    | .error e => some e
    | .ok _ => firstError (before ++ [r]) rs

namespace Builder

variable {b : Builder} {rs : List Record} {ns : List Node} {r : Record} {node : Node} {e : Error}

theorem readNode_line (depth? : Option Nat) (line line' id : Nat) (r : Record) :
    readNode depth? line id r = (readNode depth? line' id r).map ({ · with line }) := by
  unfold readNode
  cases Kind.ofName? r.kind with
  | none => rfl
  | some kind =>
    dsimp only
    cases checkPlace depth? kind r id with
    | error e => rfl
    | ok u => cases Payload.decode kind.rule r.content id <;> rfl

theorem Holds.feed (h : b.Holds rs ns) (lines : List Text) :
    (b.feed (lines.map .ok)).2 = firstError rs (recordsOf lines) ∧
      (firstError rs (recordsOf lines) = none →
        ∃ ns', (b.feed (lines.map .ok)).1.Holds (rs ++ recordsOf lines) ns') := by
  induction lines generalizing b rs ns with
  | nil => exact ⟨rfl, fun _ ↦ ⟨ns, by simpa [recordsOf, Builder.feed] using h⟩⟩
  | cons line lines ih =>
    have hcount : ({ b with stats := b.stats.countLine } : Builder).Holds rs ns :=
      h.of_eq rfl rfl
    simp only [List.map_cons, Builder.feed, addLine]
    cases hline : Record.ofLine? line with
    | none =>
      have hrecords : recordsOf (line :: lines) = recordsOf lines := by simp [recordsOf, hline]
      rw [hrecords]
      exact ih (h.of_eq rfl rfl)
    | some r =>
      have hrecords : recordsOf (line :: lines) = r :: recordsOf lines := by
        simp [recordsOf, hline]
      have hread := readNode_line (rs.getLast?.map Record.level) b.line 1 (rs.length + 1) r
      rw [hrecords, firstError]
      cases hn : readNode (rs.getLast?.map Record.level) 1 (rs.length + 1) r with
      | error e =>
        rw [hn] at hread
        simp only [hcount.addRecord_error hread]
        exact ⟨rfl, fun h ↦ by cases h⟩
      | ok node =>
        rw [hn] at hread
        obtain ⟨i, hok⟩ :
            ∃ i, (Builder.addRecord { b with stats := b.stats.countLine } r).2 = .ok i := by
          rw [hcount.addRecord_ok hread]
          exact ⟨_, rfl⟩
        have hih := ih (hcount.snoc hread)
        simp only [hok, Except.map, List.append_assoc, List.singleton_append] at hih ⊢
        exact hih

end Builder

open Builder

variable {lines : List Text} {tree : Tree} {stats : Stats} {e : Error}

/-- What becomes of a dump, and when it becomes a tree, of what nodes. -/
theorem Tree.ofLines?_eq (lines : List Text) :
    (∃ e, firstError [] (recordsOf lines) = some e ∧ Tree.ofLines? lines = .error e) ∨
      firstError [] (recordsOf lines) = none ∧
        (recordsOf lines = [] ∧ Tree.ofLines? lines = .error .emptyDump ∨
          recordsOf lines ≠ [] ∧ ∃ b ns, ({} : Builder).feed (lines.map .ok) = (b, none) ∧
            b.Holds (recordsOf lines) ns ∧ Tree.ofLines? lines = .ok (b.tree, b.stats)) := by
  obtain ⟨herror, hholds⟩ := holds_empty.feed lines
  unfold Tree.ofLines?
  generalize ({} : Builder).feed (lines.map .ok) = fed at herror hholds ⊢
  obtain ⟨b, error?⟩ := fed
  obtain rfl : error? = firstError [] (recordsOf lines) := herror
  cases hf : firstError [] (recordsOf lines) with
  | some e => exact .inl ⟨e, rfl, rfl⟩
  | none =>
    obtain ⟨ns, hns⟩ := hholds hf
    have hempty : b.tree.isEmpty = (recordsOf lines).isEmpty := by
      rw [hns.tree, Tree.linked_isEmpty]
      have := hns.length_eq
      cases ns <;> cases h : recordsOf lines <;> simp_all
    refine .inr ⟨rfl, ?_⟩
    by_cases hr : recordsOf lines = []
    · refine .inl ⟨hr, ?_⟩
      simp [finish, hempty, hr]
    · refine .inr ⟨hr, b, ns, rfl, hns, ?_⟩
      simp [finish, hempty, hr]

theorem Tree.ofLines?_ok (h : Tree.ofLines? lines = .ok (tree, stats)) :
    ∃ b ns, ({} : Builder).feed (lines.map .ok) = (b, none) ∧ b.Holds (recordsOf lines) ns ∧
      ns ≠ [] ∧ tree = b.tree ∧ stats = b.stats := by
  rcases Tree.ofLines?_eq lines with ⟨e, -, he⟩ | ⟨-, ⟨-, he⟩ | ⟨hr, b, ns, hb, hns, hok⟩⟩
  · cases he.symm.trans h
  · cases he.symm.trans h
  · cases hok.symm.trans h
    refine ⟨b, ns, hb, hns, ?_, rfl, rfl⟩
    rintro rfl
    exact hr (List.length_eq_zero_iff.mp hns.length_eq.symm)

theorem Builder.feed_items {b b' : Builder} {items : List (Except Error Text)}
    (h : b.feed items = (b', none)) : ∃ lines : List Text, items = lines.map .ok := by
  induction items generalizing b with
  | nil => exact ⟨[], rfl⟩
  | cons item items ih =>
    cases item with
    | error e => cases h
    | ok line =>
      rw [Builder.feed] at h
      split at h
      · cases h
      · obtain ⟨lines, rfl⟩ := ih h
        exact ⟨line :: lines, rfl⟩

namespace Converter

variable {σ : Type}

theorem read_ok (c : Converter σ) {t : Transcript} (ht : t.items = lines.map .ok)
    (h : Tree.ofLines? lines = .ok (tree, stats)) :
    (c.read t).result = .ok () ∧
      (c.read t).converter = { c with document? := some (.ofTree tree), stats } := by
  obtain ⟨b, ns, hb, hns, hne, rfl, rfl⟩ := Tree.ofLines?_ok h
  have hfinish : b.finish = .ok (b.tree, b.stats) := by
    rw [finish, hns.tree, Tree.linked_isEmpty]
    simp [hne]
  simp [read, ht, hb, hfinish]

theorem readLines_ok (c : Converter σ) (h : Tree.ofLines? lines = .ok (tree, stats)) :
    (c.readLines lines).result = .ok () ∧
      (c.readLines lines).converter = { c with document? := some (.ofTree tree), stats } :=
  c.read_ok rfl h

/-- A read fails and changes nothing, or it puts a tree in place, and that in any converter. -/
theorem read_cases (c : Converter σ) (t : Transcript) :
    (∃ e, (c.read t).result = .error e ∧ (c.read t).converter = c) ∨
      ∃ lines tree stats, t.items = lines.map .ok ∧ Tree.ofLines? lines = .ok (tree, stats) := by
  unfold read
  rcases hfeed : ({} : Builder).feed t.items with ⟨b, _ | e⟩
  · obtain ⟨lines, hlines⟩ := feed_items hfeed
    cases hfinish : b.finish with
    | error e => exact .inl ⟨e, by simp [hfinish], by simp [hfinish]⟩
    | ok built =>
      refine .inr ⟨lines, built.1, built.2, hlines, ?_⟩
      rw [hlines] at hfeed
      rw [Tree.ofLines?, hfeed]
      exact hfinish
  · exact .inl ⟨e, rfl, rfl⟩

end Converter

end PpiDump
