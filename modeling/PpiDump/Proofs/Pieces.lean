import PpiDump.Proofs.Decoding
import PpiDump.Proofs.Lines
import PpiDump.Proofs.Reading

namespace PpiDump

namespace Bytes

variable {q rest : Bytes}

/-- Bytes are nothing, a last piece without a line feed, or a piece up to a line feed and more. -/
theorem piece_induction {motive : Bytes → Prop} (nil : motive [])
    (last : ∀ q, q ≠ [] → lineFeed ∉ q → motive q)
    (cut : ∀ q rest, lineFeed ∉ q → motive rest → motive (q ++ lineFeed :: rest)) (bs : Bytes) :
    motive bs := by
  induction hn : bs.length using Nat.strongRecOn generalizing bs with
  | ind n ih =>
    by_cases hfeed : lineFeed ∈ bs
    · obtain ⟨q, rest, rfl, hq⟩ := List.eq_append_cons_of_mem hfeed
      refine cut q rest hq (ih rest.length ?_ rest rfl)
      rw [← hn, List.length_append, List.length_cons]
      omega
    · by_cases hne : bs = []
      · exact hne ▸ nil
      · exact last bs hne hfeed

theorem pieces_of_notMem (hfeed : lineFeed ∉ q) (hne : q ≠ []) : pieces q = [q] := by
  induction q with
  | nil => exact absurd rfl hne
  | cons b q ih =>
    rw [List.mem_cons, not_or] at hfeed
    rw [pieces, if_neg (Ne.symm hfeed.1)]
    cases q with
    | nil => rfl
    | cons d q => rw [ih hfeed.2 (List.cons_ne_nil d q)]

theorem pieces_append (hfeed : lineFeed ∉ q) (rest : Bytes) :
    pieces (q ++ lineFeed :: rest) = (q ++ [lineFeed]) :: pieces rest := by
  induction q with
  | nil => rw [List.nil_append, pieces, if_pos rfl, List.nil_append]
  | cons b q ih =>
    rw [List.mem_cons, not_or] at hfeed
    rw [List.cons_append, pieces, if_neg (Ne.symm hfeed.1), ih hfeed.2, List.cons_append]

theorem dropLastIf_append (b : UInt8) (q : Bytes) : dropLastIf b (q ++ [b]) = q := by
  simp [dropLastIf]

theorem dropLastIf_of_ne {b : UInt8} (h : q.getLast? ≠ some b) : dropLastIf b q = q := if_neg h

theorem withoutEnding_append (q : Bytes) :
    withoutEnding (q ++ [lineFeed]) = dropLastIf carriageReturn q := by
  rw [withoutEnding, dropLastIf_append]

theorem withoutEnding_of_notMem (hfeed : lineFeed ∉ q) :
    withoutEnding q = dropLastIf carriageReturn q := by
  rw [withoutEnding, dropLastIf_of_ne fun h ↦ hfeed (List.mem_of_getLast? h)]

end Bytes

namespace Utf8

open Bytes Text

variable {q rest : Bytes}

theorem feed_notMem_decode (hfeed : lineFeed ∉ q) : '\n' ∉ decode q := by
  intro h
  obtain ⟨b, hb, heq⟩ := mem_decodeFrom sound_start ⟨by decide, by decide⟩ h
  obtain rfl : lineFeed = b := UInt8.toNat_inj.mp heq
  exact hfeed hb

theorem decode_getLast? (h : q.getLast? ≠ some carriageReturn) :
    (decode q).getLast? ≠ some '\r' := by
  intro hlast
  obtain ⟨b, hb, heq⟩ := getLast?_decodeFrom sound_start ⟨by decide, by decide⟩ hlast
  obtain rfl : carriageReturn = b := UInt8.toNat_inj.mp heq
  exact h hb

theorem decode_append_feed (q rest : Bytes) :
    decode (q ++ lineFeed :: rest) = decode q ++ '\n' :: decode rest :=
  decode_append (by decide) q rest

theorem decode_append_return (q : Bytes) : decode (q ++ [carriageReturn]) = decode q ++ ['\r'] :=
  decode_append (by decide) q []

theorem lines_decode_append (hfeed : lineFeed ∉ q) (rest : Bytes) :
    (decode (q ++ lineFeed :: rest)).lines =
      decodeLine (q ++ [lineFeed]) :: (decode rest).lines := by
  rw [decode_append_feed, decodeLine, withoutEnding_append]
  by_cases hreturn : q.getLast? = some carriageReturn
  · -- The carriage return goes with its line feed, in the bytes as in the text.
    obtain ⟨p, rfl⟩ := List.getLast?_eq_some_iff.mp hreturn
    have hp : lineFeed ∉ p := fun h ↦ hfeed (List.mem_append_left _ h)
    rw [dropLastIf_append, decode_append_return, List.append_assoc]
    exact lines_append_return (feed_notMem_decode hp) _
  · rw [dropLastIf_of_ne hreturn]
    exact lines_append_feed (feed_notMem_decode hfeed) (decode_getLast? hreturn) _

/-- Pieces are read as the lines of the text, but for a carriage return at the very end, which the
last line of the text keeps. -/
theorem lines_decode (bytes : Bytes) :
    (bytes.getLast? ≠ some carriageReturn →
        (decode bytes).lines = bytes.pieces.map decodeLine) ∧
      (bytes.getLast? = some carriageReturn →
        ∃ before line, bytes.pieces.map decodeLine = before ++ [line] ∧
          (decode bytes).lines = before ++ [line ++ ['\r']]) := by
  induction bytes using piece_induction with
  | nil => exact ⟨fun _ ↦ rfl, fun h ↦ by cases h⟩
  | last q hne hfeed =>
    have hlines : (decode q).lines = [decode q] :=
      lines_of_notMem (feed_notMem_decode hfeed) (decodeFrom_ne_nil .start hne)
    rw [pieces_of_notMem hfeed hne, List.map_singleton, hlines, decodeLine,
      withoutEnding_of_notMem hfeed]
    constructor
    · intro h
      rw [dropLastIf_of_ne h]
    · intro h
      obtain ⟨p, rfl⟩ := List.getLast?_eq_some_iff.mp h
      refine ⟨[], decode p, ?_, ?_⟩
      · rw [dropLastIf_append, List.nil_append]
      · rw [decode_append_return, List.nil_append]
  | cut q rest hfeed ih =>
    rw [lines_decode_append hfeed, pieces_append hfeed, List.map_cons]
    by_cases hrest : rest = []
    · subst hrest
      refine ⟨fun _ ↦ rfl, fun h ↦ ?_⟩
      rw [List.getLast?_concat] at h
      cases h
    · -- What ends the rest ends the whole.
      have hlast : (q ++ lineFeed :: rest).getLast? = rest.getLast? := by
        rw [List.append_cons, List.getLast?_append_of_ne_nil _ hrest]
      rw [hlast]
      refine ⟨fun h ↦ congrArg _ (ih.1 h), fun h ↦ ?_⟩
      obtain ⟨before, line, hsent, hwhole⟩ := ih.2 h
      exact ⟨decodeLine (q ++ [lineFeed]) :: before, line, congrArg _ hsent, congrArg _ hwhole⟩

end Utf8

theorem Record.ofLine?_return (line : Text) : ofLine? (line ++ ['\r']) = ofLine? line := by
  have htrim : Text.trimEnd (line ++ ['\r']) = Text.trimEnd line :=
    Text.trimEnd_append_blank (List.forall_mem_singleton.mpr (by decide)) line
  simp only [ofLine?, htrim]

namespace Builder

theorem addRecord_skipped (b : Builder) (r : Record) (skipped : Array (Nat × Text)) :
    ({ b with skipped } : Builder).addRecord r =
      ({ (b.addRecord r).1 with skipped }, (b.addRecord r).2) := by
  simp only [addRecord]
  cases readNode b.cursor.level b.line (b.tree.size + 1) r with
  | error e => rfl
  | ok node =>
    dsimp only
    split <;> rfl

theorem feed_of_records {lines lines' : List Text}
    (h : lines.map Record.ofLine? = lines'.map Record.ofLine?) (b : Builder)
    (skipped : Array (Nat × Text)) :
    ∃ skipped', ({ b with skipped } : Builder).feed (lines'.map .ok) =
      ({ (b.feed (lines.map .ok)).1 with skipped := skipped' }, (b.feed (lines.map .ok)).2) := by
  induction lines generalizing lines' b skipped with
  | nil =>
    obtain rfl := List.map_eq_nil_iff.mp h.symm
    exact ⟨skipped, rfl⟩
  | cons line lines ih =>
    obtain ⟨line', lines', rfl, hline, hlines⟩ := List.map_eq_cons_iff.mp h.symm
    simp only [List.map_cons, feed, addLine, hline]
    cases Record.ofLine? line with
    | none =>
      let stats := b.stats.countLine
      exact ih hlines.symm
        { b with stats := stats.countSkipped, skipped := b.skipped.push (stats.linesRead, line) } _
    | some r =>
      have hadd := addRecord_skipped { b with stats := b.stats.countLine } r skipped
      simp only [hadd]
      cases (addRecord { b with stats := b.stats.countLine } r).2 with
      | error e => exact ⟨skipped, rfl⟩
      | ok i => exact ih hlines.symm _ skipped

theorem finish_skipped (b : Builder) (skipped : Array (Nat × Text)) :
    ({ b with skipped } : Builder).finish = b.finish := rfl

end Builder

theorem Tree.ofLines?_of_records {lines lines' : List Text}
    (h : lines.map Record.ofLine? = lines'.map Record.ofLine?) :
    Tree.ofLines? lines = Tree.ofLines? lines' := by
  obtain ⟨skipped, hfeed⟩ := Builder.feed_of_records h {} #[]
  generalize hfed : ({} : Builder).feed (lines.map .ok) = fed at hfeed
  obtain ⟨b, error?⟩ := fed
  simp only [Tree.ofLines?, hfed, hfeed]
  cases error? <;> rfl

theorem Converter.read_of_records {σ : Type} {lines lines' : List Text}
    (h : lines.map Record.ofLine? = lines'.map Record.ofLine?) (c : Converter σ)
    (t t' : Transcript) :
    (c.read { t with items := lines.map .ok }).result =
        (c.read { t' with items := lines'.map .ok }).result ∧
      (c.read { t with items := lines.map .ok }).converter =
        (c.read { t' with items := lines'.map .ok }).converter := by
  obtain ⟨skipped, hfeed⟩ := Builder.feed_of_records h {} #[]
  generalize hfed : ({} : Builder).feed (lines.map .ok) = fed at hfeed
  obtain ⟨b, error?⟩ := fed
  simp only [read, hfed, hfeed]
  cases error? with
  | some e => exact ⟨rfl, rfl⟩
  | none =>
    dsimp only
    rw [Builder.finish_skipped b skipped]
    cases b.finish with
    | error e => exact ⟨rfl, rfl⟩
    | ok read => exact ⟨rfl, rfl⟩

theorem Utf8.records_decode (bytes : Bytes) :
    (bytes.pieces.map decodeLine).map Record.ofLine? =
      (decode bytes).lines.map Record.ofLine? := by
  by_cases hlast : bytes.getLast? = some Bytes.carriageReturn
  · obtain ⟨before, line, hsent, hwhole⟩ := (lines_decode bytes).2 hlast
    rw [hsent, hwhole, List.map_append, List.map_append, List.map_singleton, List.map_singleton,
      Record.ofLine?_return]
  · rw [(lines_decode bytes).1 hlast]

/-- Whatever bytes a dumper sends, they are read alike piece by piece and as a whole. -/
theorem pieces_read_alike (bytes : Bytes) :
    let sent := bytes.pieces.map Utf8.decodeLine
    let whole := (Utf8.decode bytes).lines
    (sent.length = whole.length ∧
        (bytes.getLast? ≠ some Bytes.carriageReturn → sent = whole) ∧
        (bytes.getLast? = some Bytes.carriageReturn →
          ∃ before line, sent = before ++ [line] ∧ whole = before ++ [line ++ ['\r']])) ∧
      Tree.ofLines? sent = Tree.ofLines? whole ∧
      ∀ {σ : Type} (c : Converter σ) (t : Transcript),
        (c.read { t with items := sent.map .ok }).result = (c.readLines whole).result ∧
          (c.read { t with items := sent.map .ok }).converter = (c.readLines whole).converter := by
  have hrecords := Utf8.records_decode bytes
  obtain ⟨hequal, hreturn⟩ := Utf8.lines_decode bytes
  refine ⟨⟨?_, fun h ↦ (hequal h).symm, hreturn⟩, Tree.ofLines?_of_records hrecords,
    fun c t ↦ c.read_of_records hrecords t (.ofLines [])⟩
  simpa using congrArg List.length hrecords

theorem pieces_read_alike_return :
    let bytes : Bytes := Utf8.encode "PPI::Document\r\n  PPI::Token::Comment '#".toList ++
      [0xE2, 0x82, 0x0A] ++ Utf8.encode "  PPI::Statement\r".toList
    let sent := bytes.pieces.map Utf8.decodeLine
    let whole := (Utf8.decode bytes).lines
    bytes.getLast? = some Bytes.carriageReturn ∧
      (∃ before line, sent = before ++ [line] ∧ whole = before ++ [line ++ ['\r']]) ∧
      Tree.ofLines? sent = Tree.ofLines? whole ∧ (Tree.ofLines? sent).isOk = true :=
  have h := pieces_read_alike (Utf8.encode "PPI::Document\r\n  PPI::Token::Comment '#".toList ++
    [0xE2, 0x82, 0x0A] ++ Utf8.encode "  PPI::Statement\r".toList)
  have hlast := by decide +kernel
  ⟨hlast, h.1.2.2 hlast, h.2.1, by decide +kernel⟩

end PpiDump
