import Mathlib.Data.List.Infix
import PpiDump.Proofs.Parts
import PpiDump.Proofs.Reading
import PpiDump.Proofs.Refusal

namespace PpiDump

namespace Text

def isBlankLine (t : Text) : Bool := t.all isBlank

theorem isBlankLine_iff (t : Text) : isBlankLine t ↔ Record.ofLine? t = none := by
  rw [Record.ofLine?_eq_none_iff, isBlankLine, List.all_eq_true]

theorem hasPart_iff (part t : Text) : hasPart part t ↔ part <:+: t := by
  induction t with
  | nil => simp [hasPart]
  | cons c t ih =>
    rw [hasPart, Bool.or_eq_true, ih, List.isPrefixOf_iff_prefix, List.infix_cons_iff]

end Text

/-- How many records hold a backslash and an n next to each other. -/
def newlines (rs : List Record) : Nat := (rs.filter fun r ↦ ['\\', 'n'] <:+: r.content).length

theorem newlines_snoc (rs : List Record) (r : Record) :
    newlines (rs ++ [r]) = if r.hasNewlineEscape then newlines rs + 1 else newlines rs := by
  have hpart : r.hasNewlineEscape ↔ ['\\', 'n'] <:+: r.content := Text.hasPart_iff _ _
  rw [newlines, List.filter_append, List.length_append, ← newlines]
  by_cases h : r.hasNewlineEscape
  · rw [if_pos h, List.filter_singleton]
    simp [hpart.mp h]
  · rw [if_neg h, List.filter_singleton]
    simp [mt hpart.mpr h]

/-- The blank ones of some lines, each with its number. -/
def blankLines (lines : List Text) : List (Nat × Text) :=
  ((lines.zipIdx 1).filter fun x ↦ x.1.isBlankLine).map fun x ↦ (x.2, x.1)

theorem blankLines_snoc (lines : List Text) (t : Text) :
    blankLines (lines ++ [t]) =
      blankLines lines ++ if t.isBlankLine then [(lines.length + 1, t)] else [] := by
  rw [blankLines, List.zipIdx_append, List.filter_append, List.map_append, ← blankLines]
  have hnumber : 1 + lines.length = lines.length + 1 := Nat.add_comm 1 lines.length
  by_cases h : t.isBlankLine <;> simp [h, hnumber]

namespace Builder

def Feed.line? : Feed → Option Text
  | line t => some t
  | record _ => none

def linesOf (fs : List Feed) : List Text := fs.filterMap Feed.line?

/-- What shows of the counting in a builder that was fed some items and accepted some records. -/
structure Counted (b : Builder) (fs : List Feed) (rs : List Record) : Prop where
  linesRead : b.stats.linesRead = (linesOf fs).length
  linesSkipped : b.stats.linesSkipped = ((linesOf fs).filter Text.isBlankLine).length
  nodes : b.stats.nodes = b.tree.size
  size : b.tree.size = rs.length
  ids : ∀ k node, b.tree.get? k = some node →
    node.id = k + 1 ∧ ∃ r, rs[k]? = some r ∧ r.Describes node
  lines : ∀ k node, b.tree.get? k = some node → node.line = 1 + newlines (rs.take k)
  warnings : b.warnings = (blankLines (linesOf fs)).map fun x ↦ .badLine x.1 x.2

/-- What stays so, item by item. -/
structure Counts (b : Builder) (fs : List Feed) (rs : List Record) (ns : List Node) : Prop where
  linesRead : b.stats.linesRead = (linesOf fs).length
  linesSkipped : b.stats.linesSkipped = ((linesOf fs).filter Text.isBlankLine).length
  nodes : b.stats.nodes = ns.length
  line : b.line = 1 + newlines rs
  lines : ∀ k node, ns[k]? = some node → node.line = 1 + newlines (rs.take k)
  skipped : b.skipped.toList = blankLines (linesOf fs)

variable {b b' : Builder} {fs : List Feed} {rs rs' : List Record} {ns ns' : List Node} {f : Feed}
  {r : Record} {t : Text}

theorem linesOf_line (fs : List Feed) (t : Text) : linesOf (fs ++ [.line t]) = linesOf fs ++ [t] :=
  List.filterMap_append

theorem linesOf_record (fs : List Feed) (r : Record) :
    linesOf (fs ++ [.record r]) = linesOf fs := by
  rw [linesOf, List.filterMap_append]
  exact List.append_nil _

theorem linesOf_dump (dump : List Text) : linesOf (dump.map .line) = dump := by
  rw [linesOf, List.filterMap_map]
  exact List.filterMap_some

theorem counts_empty : ({} : Builder).Counts [] [] [] where
  linesRead := rfl
  linesSkipped := rfl
  nodes := rfl
  line := rfl
  lines := by simp
  skipped := rfl

namespace Counts

theorem count (h : b.Counts fs rs ns) (hf : f.record? = some r) :
    ({ b with stats := f.count b.stats } : Builder).Counts (fs ++ [f]) rs ns := by
  cases f with
  | record r' =>
    obtain ⟨hread, hskipped, hnodes, hline, hlines, hnumbers⟩ := h
    rw [← linesOf_record fs r'] at hread hskipped hnumbers
    exact ⟨hread, hskipped, hnodes, hline, hlines, hnumbers⟩
  | line t =>
    have hsolid : ¬t.isBlankLine := by
      intro hblank
      have hnone : Record.ofLine? t = none := t.isBlankLine_iff.mp hblank
      cases hnone.symm.trans hf
    refine ⟨?_, ?_, h.nodes, h.line, h.lines, ?_⟩
    · rw [linesOf_line, List.length_append, ← h.linesRead]
      rfl
    · rw [linesOf_line, List.filter_append, List.filter_cons_of_neg hsolid, List.filter_nil,
        List.append_nil]
      exact h.linesSkipped
    · rw [linesOf_line, blankLines_snoc, if_neg hsolid, List.append_nil]
      exact h.skipped

theorem skip (h : b.Counts fs rs ns) (ht : Record.ofLine? t = none) :
    ({ b with
        stats := b.stats.countLine.countSkipped
        skipped := b.skipped.push (b.stats.linesRead + 1, t) } : Builder).Counts
      (fs ++ [.line t]) rs ns := by
  have hblank : t.isBlankLine := t.isBlankLine_iff.mpr ht
  refine ⟨?_, ?_, h.nodes, h.line, h.lines, ?_⟩
  · rw [linesOf_line, List.length_append, ← h.linesRead]
    rfl
  · rw [linesOf_line, List.filter_append, List.filter_cons_of_pos hblank, List.filter_nil,
      List.length_append, ← h.linesSkipped]
    rfl
  · rw [linesOf_line, blankLines_snoc, if_pos hblank, Array.toList_push, h.skipped, h.linesRead]

theorem add (h : b.Counts fs rs ns) (hlength : ns.length = rs.length) {node : Node}
    (hnode : node.line = b.line) (tree : Tree) (cursor : Cursor) :
    ({ b with
        tree, cursor
        line := if r.hasNewlineEscape then b.line + 1 else b.line
        stats := b.stats.countNode } : Builder).Counts fs (rs ++ [r]) (ns ++ [node]) := by
  refine ⟨h.linesRead, h.linesSkipped, ?_, ?_, ?_, h.skipped⟩
  · rw [List.length_append, ← h.nodes]
    rfl
  · have hline := h.line
    rw [newlines_snoc]
    dsimp only
    split <;> omega
  · intro k node' hk
    rcases Nat.lt_or_ge k ns.length with hlt | hge
    · rw [List.getElem?_append_left hlt] at hk
      rw [List.take_append_of_le_length (hlength ▸ hlt.le)]
      exact h.lines k node' hk
    · have hlast := (List.getElem?_eq_some_iff.mp hk).1
      rw [List.length_append, List.length_singleton] at hlast
      obtain rfl : k = ns.length := by omega
      obtain rfl : node = node' := by simpa using hk
      rw [hlength, List.take_left, hnode, h.line]

theorem takes (h : b.Counts fs rs ns) (hlength : ns.length = rs.length)
    (hf : b.Takes rs ns f b' rs' ns') : b'.Counts (fs ++ [f]) rs' ns' := by
  cases hf with
  | skipped ht => exact h.skip ht
  | refused hf => exact h.count hf
  | added hf hn =>
    obtain ⟨-, -, -, hline, -⟩ := readNode_eq_ok hn
    exact (h.count hf).add hlength hline _ _

theorem run (h : b.Counts fs rs ns) (hb : b.Holds rs ns) (fs' : List Feed) :
    ∃ ns', (b.run fs').Counts (fs ++ fs') (rs ++ b.accepted fs') ns' ∧
      (b.run fs').Holds (rs ++ b.accepted fs') ns' := by
  induction fs' generalizing b fs rs ns with
  | nil => exact ⟨ns, by simpa [accepted, Builder.run] using And.intro h hb⟩
  | cons f fs' ih =>
    obtain ⟨ns', htakes, hb'⟩ := hb.takes f
    obtain ⟨ns'', h'', hb''⟩ := ih (h.takes hb.length_eq htakes) hb'
    refine ⟨ns'', ?_⟩
    simpa [accepted, Builder.run] using And.intro h'' hb''

theorem counted (h : b.Counts fs rs ns) (hb : b.Holds rs ns) : b.Counted fs rs where
  linesRead := h.linesRead
  linesSkipped := h.linesSkipped
  nodes := h.nodes.trans hb.size_eq.symm
  size := hb.size_eq.trans hb.length_eq
  ids := by
    intro k node hk
    rw [hb.tree, Tree.linked_get?] at hk
    obtain ⟨x, hx, rfl⟩ := Option.map_eq_some_iff.mp hk
    obtain ⟨hlt, rfl⟩ := List.getElem?_eq_some_iff.mp hx
    have hr : k < rs.length := hb.length_eq ▸ hlt
    have hid := congrArg (·[k]?) hb.ids
    refine ⟨?_, rs[k], List.getElem?_eq_getElem hr, ?_⟩
    · simpa [hlt, Nat.add_comm, Levels.link] using hid
    · obtain ⟨hlevel, hkind, hpayload⟩ := hb.describes.get hr hlt
      exact ⟨hlevel, hkind, hpayload⟩
  lines := by
    intro k node hk
    rw [hb.tree, Tree.linked_get?] at hk
    obtain ⟨x, hx, rfl⟩ := Option.map_eq_some_iff.mp hk
    exact h.lines k x hx
  warnings := by rw [Builder.warnings, h.skipped]

end Counts

theorem counted_run (fs : List Feed) :
    (({} : Builder).run fs).Counted fs (({} : Builder).accepted fs) := by
  obtain ⟨ns, h, hb⟩ := counts_empty.run holds_empty fs
  exact h.counted hb

theorem run_of_feed {dump : List Text} (h : b.feed (dump.map .ok) = (b', none)) :
    b.run (dump.map .line) = b' := by
  induction dump generalizing b with
  | nil => exact congrArg Prod.fst h
  | cons t dump ih =>
    rw [List.map_cons, feed] at h
    split at h
    · cases h
    · rename_i hline
      have hstep : (b.step (.line t)).1 = _ := congrArg Prod.fst hline
      rw [List.map_cons, run, hstep]
      exact ih h

theorem run_solid (h : b'.uncounted = b.uncounted) (dump : List Text) :
    (b'.run ((dump.filter fun t ↦ !t.isBlankLine).map .line)).uncounted =
      (b.run (dump.map .line)).uncounted := by
  induction dump generalizing b b' with
  | nil => exact h
  | cons t dump ih =>
    rw [List.filter_cons]
    by_cases hblank : t.isBlankLine
    · have hskipped := (addLine_of_blank (t.isBlankLine_iff.mp hblank) b).2
      simp only [hblank, Bool.not_true, Bool.false_eq_true, if_false]
      exact ih (h.trans hskipped.symm)
    · have hsolid : (!t.isBlankLine) = true := by simpa using hblank
      rw [if_pos hsolid]
      exact ih (step_congr h (.line t)).2

end Builder

open Builder

theorem recordsOf_solid (dump : List Text) :
    recordsOf (dump.filter fun t ↦ !t.isBlankLine) = recordsOf dump := by
  rw [recordsOf, recordsOf, List.filterMap_filter]
  refine List.filterMap_congr fun t _ ↦ ?_
  by_cases hblank : t.isBlankLine
  · simp [hblank, t.isBlankLine_iff.mp hblank]
  · simp [hblank]

theorem length_recordsOf (dump : List Text) :
    dump.length = (dump.filter Text.isBlankLine).length + (recordsOf dump).length := by
  induction dump with
  | nil => rfl
  | cons t dump ih =>
    by_cases hblank : t.isBlankLine
    · have hnone := t.isBlankLine_iff.mp hblank
      rw [List.filter_cons_of_pos hblank, recordsOf, List.filterMap_cons_none hnone, ← recordsOf,
        List.length_cons, List.length_cons]
      omega
    · obtain ⟨r, hr⟩ := Option.ne_none_iff_exists'.mp (mt t.isBlankLine_iff.mpr hblank)
      rw [List.filter_cons_of_neg hblank, recordsOf, List.filterMap_cons_some hr, ← recordsOf,
        List.length_cons, List.length_cons]
      omega

namespace Tree

variable {dump dump' : List Text} {tree tree' : Tree} {stats stats' : Stats}

theorem ofLines?_counted (h : ofLines? dump = .ok (tree, stats)) :
    (({} : Builder).run (dump.map .line)).tree = tree ∧
      stats = ⟨dump.length, (dump.filter Text.isBlankLine).length, tree.size⟩ ∧
      tree.size = (recordsOf dump).length := by
  obtain ⟨b, ns, hfeed, hns, -, rfl, rfl⟩ := ofLines?_ok h
  have hrun := run_of_feed hfeed
  have hcounted := counted_run (dump.map .line)
  rw [hrun] at hcounted ⊢
  refine ⟨rfl, ?_, hns.size_eq.trans hns.length_eq⟩
  have hread := hcounted.linesRead
  have hskipped := hcounted.linesSkipped
  rw [linesOf_dump] at hread hskipped
  rw [← hread, ← hskipped, ← hcounted.nodes]

theorem ofLines?_solid (h : ofLines? dump = .ok (tree, stats))
    (hsolid : (dump'.filter fun t ↦ !t.isBlankLine) = dump.filter fun t ↦ !t.isBlankLine) :
    ∃ stats', ofLines? dump' = .ok (tree, stats') := by
  have hrecords : recordsOf dump' = recordsOf dump := by
    rw [← recordsOf_solid dump', hsolid, recordsOf_solid]
  obtain ⟨tree', stats', h'⟩ : ∃ tree' stats', ofLines? dump' = .ok (tree', stats') := by
    rcases ofLines?_eq dump with ⟨e, -, he⟩ | ⟨hnone, ⟨-, he⟩ | ⟨hne, -⟩⟩
    · cases he.symm.trans h
    · cases he.symm.trans h
    · rw [← hrecords] at hnone hne
      rcases ofLines?_eq dump' with ⟨e, he, -⟩ | ⟨-, ⟨hnil, -⟩ | ⟨-, b, ns, -, -, hok⟩⟩
      · cases he.symm.trans hnone
      · exact absurd hnil hne
      · exact ⟨_, _, hok⟩
  have hrun : (({} : Builder).run (dump'.map .line)).uncounted =
      (({} : Builder).run (dump.map .line)).uncounted := by
    rw [← run_solid rfl dump', hsolid]
    exact run_solid rfl dump
  have htree : (({} : Builder).run (dump'.map .line)).tree =
      (({} : Builder).run (dump.map .line)).tree := (congrArg Builder.tree hrun :)
  rw [(ofLines?_counted h).1, (ofLines?_counted h').1] at htree
  exact ⟨stats', htree ▸ h'⟩

end Tree

namespace Builder

/-- Refused records and blank lines count as little as they should, wherever they come. -/
theorem counts_exact :
    (∀ fs, (({} : Builder).run fs).Counted fs (({} : Builder).accepted fs)) ∧
      ∀ dump tree stats, Tree.ofLines? dump = .ok (tree, stats) →
        stats.linesRead = stats.linesSkipped + stats.nodes ∧
        ∀ dump' : List Text,
          (dump'.filter fun t ↦ !t.isBlankLine) = (dump.filter fun t ↦ !t.isBlankLine) →
          Tree.ofLines? dump' = .ok (tree, { stats with
            linesRead := dump'.length
            linesSkipped := (dump'.filter Text.isBlankLine).length }) := by
  refine ⟨counted_run, ?_⟩
  intro dump tree stats h
  obtain ⟨-, rfl, hsize⟩ := Tree.ofLines?_counted h
  refine ⟨?_, ?_⟩
  · have hlength := length_recordsOf dump
    rwa [← hsize] at hlength
  · intro dump' hsolid
    obtain ⟨stats', h'⟩ := Tree.ofLines?_solid h hsolid
    obtain ⟨-, hstats, -⟩ := Tree.ofLines?_counted h'
    rw [h', hstats]

theorem counts_exact_blanks :
    let document : Text := "PPI::Document".toList
    let feed : Text := "  PPI::Token::Whitespace '\\n'".toList
    let dump : List Text := [[], document, [' ', '\t'], feed, feed]
    let dump' : List Text := [document, feed, ['\u3000'], [], feed]
    let b := ({} : Builder).run (dump.map .line)
    Tree.ofLines? dump = .ok (b.tree, ⟨5, 2, 3⟩) ∧ (5 = 2 + 3) ∧
      (dump'.filter fun t ↦ !t.isBlankLine) = (dump.filter fun t ↦ !t.isBlankLine) ∧
      Tree.ofLines? dump' = .ok (b.tree, ⟨5, 2, 3⟩) ∧
      b.warnings = [.badLine 1 [], .badLine 3 [' ', '\t']] ∧
      b.tree.nodes.map Node.line = #[1, 1, 2] := by
  intro document feed dump dump' b
  have h : Tree.ofLines? dump = .ok (b.tree, ⟨5, 2, 3⟩) := by decide +kernel
  have hsolid : (dump'.filter fun t ↦ !t.isBlankLine) = (dump.filter fun t ↦ !t.isBlankLine) := by
    decide +kernel
  have hshown : b.warnings = [.badLine 1 [], .badLine 3 [' ', '\t']] ∧
      b.tree.nodes.map Node.line = #[1, 1, 2] := by decide +kernel
  obtain ⟨hsum, hsame⟩ := counts_exact.2 dump b.tree ⟨5, 2, 3⟩ h
  exact ⟨h, hsum, hsolid, hsame dump' hsolid, hshown⟩

end Builder

end PpiDump
