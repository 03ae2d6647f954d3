import PpiDump.Proofs.Growth

namespace PpiDump.Builder

/-- What is left of the items that a builder is fed without those that it refuses or skips. -/
def kept (b : Builder) : List Feed → List Feed
  | [] => []
  | f :: fs =>
    match (b.step f).2 with
    | .ok (some _) => f :: kept (b.step f).1 fs
    | _ => kept (b.step f).1 fs

/-- The builder without what it has counted and noted, none of which bears on the tree. -/
def uncounted (b : Builder) : Builder := { b with stats := {}, skipped := #[] }

variable {b b' : Builder} {rs : List Record} {ns : List Node} {r : Record} {e : Error} {f : Feed}

theorem addRecord_uncounted (b : Builder) (r : Record) :
    (b.uncounted.addRecord r).2 = (b.addRecord r).2 ∧
      (b.uncounted.addRecord r).1.uncounted = (b.addRecord r).1.uncounted := by
  simp only [addRecord, uncounted]
  cases readNode b.cursor.level b.line (b.tree.size + 1) r with
  | error e => exact ⟨rfl, rfl⟩
  | ok node =>
    dsimp only
    split <;> exact ⟨rfl, rfl⟩

theorem addRecord_congr (h : b.uncounted = b'.uncounted) (r : Record) :
    (b.addRecord r).2 = (b'.addRecord r).2 ∧
      (b.addRecord r).1.uncounted = (b'.addRecord r).1.uncounted := by
  have hb := addRecord_uncounted b r
  have hb' := addRecord_uncounted b' r
  rw [h] at hb
  exact ⟨hb.1.symm.trans hb'.1, hb.2.symm.trans hb'.2⟩

theorem addLine_of_record {t : Text} (ht : Record.ofLine? t = some r) (b : Builder) :
    (b.addLine t).2 = (b.addRecord r).2.map some ∧
      (b.addLine t).1.uncounted = (b.addRecord r).1.uncounted := by
  have hcount : ({ b with stats := b.stats.countLine } : Builder).uncounted = b.uncounted := rfl
  obtain ⟨hresult, hbuilder⟩ := addRecord_congr hcount r
  simp only [addLine, ht]
  exact ⟨congrArg (Except.map some) hresult, hbuilder⟩

theorem addLine_of_blank {t : Text} (ht : Record.ofLine? t = none) (b : Builder) :
    (b.addLine t).2 = .ok none ∧ (b.addLine t).1.uncounted = b.uncounted := by
  simp only [addLine, ht, true_and]
  rfl

theorem step_congr (h : b.uncounted = b'.uncounted) (f : Feed) :
    (b.step f).2 = (b'.step f).2 ∧ (b.step f).1.uncounted = (b'.step f).1.uncounted := by
  cases f with
  | record r =>
    obtain ⟨hresult, hbuilder⟩ := addRecord_congr h r
    exact ⟨congrArg (Except.map some) hresult, hbuilder⟩
  | line t =>
    cases ht : Record.ofLine? t with
    | none =>
      have hb := addLine_of_blank ht b
      have hb' := addLine_of_blank ht b'
      exact ⟨hb.1.trans hb'.1.symm, hb.2.trans (h.trans hb'.2.symm)⟩
    | some r =>
      obtain ⟨hresult, hbuilder⟩ := addRecord_congr h r
      have hb := addLine_of_record ht b
      have hb' := addLine_of_record ht b'
      rw [← hresult] at hb'
      rw [← hbuilder] at hb'
      exact ⟨hb.1.trans hb'.1.symm, hb.2.trans hb'.2.symm⟩

theorem step_skipped (h : (b.step f).2 = .ok none) : (b.step f).1.uncounted = b.uncounted := by
  cases f with
  | record r =>
    have hmap : (b.addRecord r).2.map some = .ok none := h
    cases hr : (b.addRecord r).2 <;> rw [hr] at hmap <;> cases hmap
  | line t =>
    cases ht : Record.ofLine? t with
    | none => exact (addLine_of_blank ht b).2
    | some r =>
      have hmap : (b.addRecord r).2.map some = .ok none := (addLine_of_record ht b).1.symm.trans h
      cases hr : (b.addRecord r).2 <;> rw [hr] at hmap <;> cases hmap

namespace Holds

theorem move_ok (h : b.Holds rs ns) {node : Node}
    (hn : readNode b.cursor.level b.line (b.tree.size + 1) r = .ok node) :
    (b.cursor.move r.level).2 = true := by
  rw [h.level_eq, h.size_eq, h.length_eq] at hn
  obtain ⟨-, hd, -, -, -⟩ := readNode_eq_ok hn
  have hs := h.stepped_snoc hn
  rw [levelsOf_snoc, hd.level] at hs
  rw [h.cursor, Cursor.move_after hs]

theorem addRecord_refused (h : b.Holds rs ns) (he : (b.addRecord r).2 = .error e) :
    (b.addRecord r).1 = b := by
  cases hn : readNode (rs.getLast?.map Record.level) b.line (rs.length + 1) r with
  | error e' => rw [h.addRecord_error hn]
  | ok node =>
    rw [h.addRecord_ok hn] at he
    cases he

theorem addLine_refused {t : Text} (h : b.Holds rs ns) (he : (b.addLine t).2 = .error e) :
    (b.addLine t).1 = { b with stats := b.stats.countLine } := by
  cases ht : Record.ofLine? t with
  | none => cases (addLine_of_blank ht b).1.symm.trans he
  | some r =>
    have hcount : ({ b with stats := b.stats.countLine } : Builder).Holds rs ns := h.of_eq rfl rfl
    simp only [addLine, ht] at he ⊢
    cases hr : (Builder.addRecord { b with stats := b.stats.countLine } r).2 with
    | error e' => exact hcount.addRecord_refused hr
    | ok i => rw [hr] at he; cases he

theorem step_refused (h : b.Holds rs ns) (he : (b.step f).2 = .error e) :
    (b.step f).1.uncounted = b.uncounted := by
  cases f with
  | line t =>
    have hline : (b.addLine t).1 = { b with stats := b.stats.countLine } := h.addLine_refused he
    exact (congrArg uncounted hline :)
  | record r =>
    cases hr : (b.addRecord r).2 with
    | error e' => exact congrArg uncounted (h.addRecord_refused hr)
    | ok i =>
      have hok : (b.step (.record r)).2 = .ok (some i) := congrArg (Except.map some) hr
      cases hok.symm.trans he

theorem run_kept (h : b.Holds rs ns) (hb : b'.uncounted = b.uncounted) (fs : List Feed) :
    (b'.run (b.kept fs)).uncounted = (b.run fs).uncounted := by
  induction fs generalizing b b' rs ns with
  | nil => exact hb
  | cons f fs ih =>
    obtain ⟨ns', h'⟩ := h.step f
    cases hf : (b.step f).2 with
    | error e =>
      simp only [kept, hf]
      exact ih h' (hb.trans (h.step_refused hf).symm)
    | ok i? =>
      cases i? with
      | none =>
        simp only [kept, hf]
        exact ih h' (hb.trans (step_skipped hf).symm)
      | some i =>
        simp only [kept, hf]
        exact ih h' (step_congr hb f).2

end Holds

/-- Whatever a builder was fed, what it refuses leaves no trace, except that a line is counted. -/
theorem refused_unchanged (fs : List Feed) :
    let b := ({} : Builder).run fs
    (∀ r e, (b.addRecord r).2 = .error e → (b.addRecord r).1 = b) ∧
      (∀ t e, (b.addLine t).2 = .error e →
        (b.addLine t).1 = { b with stats := { b.stats with linesRead := b.stats.linesRead + 1 } }) ∧
      (∀ r node, readNode b.cursor.level b.line (b.tree.size + 1) r = .ok node →
        (b.cursor.move r.level).2 = true) ∧
      (({} : Builder).run (({} : Builder).kept fs)).tree = b.tree := by
  obtain ⟨ns, h⟩ := holds_empty.run fs
  refine ⟨fun r e ↦ h.addRecord_refused, fun t e ↦ h.addLine_refused, fun r node ↦ h.move_ok, ?_⟩
  exact (congrArg Builder.tree (holds_empty.run_kept rfl fs) :)

theorem refused_unchanged_jump :
    let fs : List Feed := [.line "PPI::Document".toList, .record ⟨2, "PPI::Node".toList, []⟩,
      .line [' '], .line "  PPI::Statement".toList, .record ⟨0, "PPI::Document".toList, []⟩]
    let b := ({} : Builder).run fs
    let deep : Record := ⟨3, "PPI::Node".toList, []⟩
    let bracket := "    PPI::Structure (".toList
    ((b.addRecord deep).2 = .error (.levelJump 3 1 3) ∧ (b.addRecord deep).1 = b) ∧
      ((b.addLine bracket).2 = .error (.bracketContent 3 ['(']) ∧
        (b.addLine bracket).1 = { b with stats := { b.stats with linesRead := 4 } }) ∧
      (readNode b.cursor.level b.line 3 ⟨1, "PPI::Node".toList, []⟩ =
          .ok { id := 3, kind := .node, level := 1, line := 1, payload := .empty } ∧
        (b.cursor.move 1).2 = true) ∧
      (({} : Builder).run [.line "PPI::Document".toList, .line "  PPI::Statement".toList]).tree =
        b.tree :=
  have h := refused_unchanged [.line "PPI::Document".toList, .record ⟨2, "PPI::Node".toList, []⟩,
    .line [' '], .line "  PPI::Statement".toList, .record ⟨0, "PPI::Document".toList, []⟩]
  have hdeep := by decide +kernel
  have hbracket := by decide +kernel
  have hread := by decide +kernel
  ⟨⟨hdeep, h.1 _ _ hdeep⟩, ⟨hbracket, h.2.1 _ _ hbracket⟩, ⟨hread, h.2.2.1 _ _ hread⟩, h.2.2.2⟩

end PpiDump.Builder
