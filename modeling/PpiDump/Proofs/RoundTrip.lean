import PpiDump.Proofs.Acceptance
import PpiDump.Proofs.Echo
import PpiDump.Proofs.Source

namespace PpiDump

theorem Label.record_level (depth : Nat) (l : Label) : (l.row depth).record.level = depth :=
  l.row_level depth

theorem Label.payload_row (depth : Nat) (l : Label) : (l.row depth).record.payload = l.payload := by
  simp only [Record.payload, Row.record, l.ofName?_row depth, l.decode_row depth 0]

namespace Emitter

variable {e : Emitter} {l m : Nat}

def put (e : Emitter) (t : Text) : Emitter := { e with output := e.output ++ t }

theorem put_put (e : Emitter) (t t' : Text) : (e.put t).put t' = e.put (t ++ t') := by
  simp [put]

theorem pending_open (h : ∀ c ∈ e.pending.head?, c.level < l) :
    e.pending.takeWhile (l ≤ ·.level) = [] ∧ e.pending.dropWhile (l ≤ ·.level) = e.pending := by
  cases hp : e.pending with
  | nil => simp
  | cons c pending =>
    have hc : c.level < l := h c (by rw [hp]; rfl)
    simp [Nat.not_le.mpr hc]

theorem close_eq_self (h : ∀ c ∈ e.pending.head?, c.level < l) : e.close l = e := by
  obtain ⟨htake, hdrop⟩ := pending_open h
  rw [close, htake, hdrop, List.map_nil, List.append_nil]

theorem close_close (h : l ≤ m) (e : Emitter) : (e.close m).close l = e.close l := by
  have himp : ∀ c : Closer, decide (m ≤ c.level) → decide (l ≤ c.level) := by
    intro c hc
    simp only [decide_eq_true_eq] at hc ⊢
    omega
  simp only [close, takeWhile_of_imp himp e.pending, dropWhile_of_imp himp e.pending,
    List.map_append, List.append_assoc]

theorem finish_eq_close (e : Emitter) : e.finish = (e.close 0).output := by
  have hall : e.pending.takeWhile (0 ≤ ·.level) = e.pending :=
    List.takeWhile_eq_self_iff.mpr fun c _ ↦ by simp
  rw [finish, close, hall]

theorem write_pending (h : ∀ c ∈ e.pending.head?, c.level < l) (p : Payload) :
    ∀ c ∈ (e.write l p).pending.head?, c.level < l + 1 := by
  cases p with
  | empty | text => exact fun c hc ↦ (h c hc).trans (Nat.lt_succ_self l)
  | delimiters =>
    rintro c ⟨⟩
    exact Nat.lt_succ_self l

theorem close_write (h : ∀ c ∈ e.pending.head?, c.level < l) (p : Payload) (t : Text) :
    ((e.write l p).put t).close l = e.put (p.ahead ++ (t ++ p.behind)) := by
  cases p with
  | empty => simpa [write, Payload.ahead, Payload.behind] using close_eq_self (e := e.put t) h
  | text t' =>
    have hput : e.write l (.text t') = e.put t' := rfl
    rw [hput, put_put, close_eq_self (by exact h)]
    simp [Payload.ahead, Payload.behind]
  | delimiters opening closing =>
    obtain ⟨htake, hdrop⟩ := pending_open h
    simp [close, write, put, htake, hdrop, Payload.ahead, Payload.behind]

theorem foldl_accept_close {rs : List Record} (h : ∀ r ∈ rs.head?, r.level ≤ l) (e : Emitter) :
    (rs.foldl accept (e.close l)).close l = (rs.foldl accept e).close l := by
  cases rs with
  | nil => exact close_close le_rfl e
  | cons r rs =>
    have hr : r.level ≤ l := h r rfl
    rw [List.foldl_cons, List.foldl_cons, accept, accept, close_close hr]

end Emitter

namespace Item

open Emitter

theorem yield_node (label : Label) (items : List Item) : yield (node label items) =
    label.payload.ahead ++ (yieldAll items ++ label.payload.behind) := by
  cases label <;> simp [yield, Label.payload, Payload.ahead, Payload.behind]

theorem head?_rows (depth : Nat) (i : Item) : ∀ r ∈ (rows depth i).head?, r.level = depth := by
  cases i with
  | node label items =>
    rintro r ⟨⟩
    exact label.row_level depth

theorem head?_rowsAll (depth : Nat) (items : List Item) :
    ∀ r ∈ (rowsAll depth items).head?, r.level = depth := by
  cases items with
  | nil => simp [rowsAll]
  | cons i items =>
    have hne : rows depth i ≠ [] := by
      cases i
      simp [rows]
    rw [rowsAll, List.head?_append_of_ne_nil _ hne]
    exact head?_rows depth i

mutual

theorem foldl_rows (depth : Nat) (e : Emitter) (he : ∀ c ∈ e.pending.head?, c.level < depth) :
    ∀ i : Item, (((rows depth i).map Row.record).foldl accept e).close depth =
      e.put i.yield
  | node label items => by
    -- Below the node its own closer is pending, so what lies there is closed one level deeper.
    rw [rows, List.map_cons, List.foldl_cons, ← close_close (Nat.le_succ depth), accept,
      Label.payload_row, Label.record_level, close_eq_self he,
      foldl_rowsAll (depth + 1) _ (write_pending he label.payload) items, close_write he,
      yield_node]

theorem foldl_rowsAll (depth : Nat) (e : Emitter) (he : ∀ c ∈ e.pending.head?, c.level < depth) :
    ∀ items : List Item, (((rowsAll depth items).map Row.record).foldl accept e).close depth =
      e.put (yieldAll items)
  | [] => by
    rw [rowsAll, List.map_nil, List.foldl_nil, close_eq_self he, yieldAll, put, List.append_nil]
  | i :: items => by
    have hlevel : ∀ r ∈ ((rowsAll depth items).map Row.record).head?, r.level ≤ depth := by
      intro r hr
      rw [List.head?_map, Option.mem_def, Option.map_eq_some_iff] at hr
      obtain ⟨row, hrow, rfl⟩ := hr
      exact (head?_rowsAll depth items row hrow).le
    rw [rowsAll, List.map_append, List.foldl_append, ← foldl_accept_close hlevel,
      foldl_rows depth e he i, foldl_rowsAll depth (e.put i.yield) he items, yieldAll, put_put]

end

/-- How the levels of neighbouring lines are related. -/
def Next (r r' : Row) : Prop := 1 ≤ r'.level ∧ r'.level ≤ r.level + 1

mutual

theorem mem_rows (depth : Nat) :
    ∀ i : Item, ∀ r ∈ rows depth i, ∃ d l, depth ≤ d ∧ r = Label.row d l
  | node label items => by
    intro r hr
    rw [rows, List.mem_cons] at hr
    rcases hr with rfl | hr
    · exact ⟨depth, label, le_rfl, rfl⟩
    · obtain ⟨d, l, hd, rfl⟩ := mem_rowsAll (depth + 1) items r hr
      exact ⟨d, l, (Nat.le_succ depth).trans hd, rfl⟩

theorem mem_rowsAll (depth : Nat) :
    ∀ items : List Item, ∀ r ∈ rowsAll depth items, ∃ d l, depth ≤ d ∧ r = Label.row d l
  | [] => by simp [rowsAll]
  | i :: items => by
    intro r hr
    rw [rowsAll, List.mem_append] at hr
    rcases hr with hr | hr
    · exact mem_rows depth i r hr
    · exact mem_rowsAll depth items r hr

end

mutual

theorem isChain_rows (depth : Nat) : ∀ i : Item, (rows depth i).IsChain Next
  | node label items => by
    refine List.isChain_cons.mpr ⟨fun r hr ↦ ?_, isChain_rowsAll depth items⟩
    rw [Next, head?_rowsAll (depth + 1) items r hr, label.row_level]
    omega

theorem isChain_rowsAll (depth : Nat) :
    ∀ items : List Item, (rowsAll (depth + 1) items).IsChain Next
  | [] => .nil
  | i :: items => by
    refine List.isChain_append.mpr
      ⟨isChain_rows (depth + 1) i, isChain_rowsAll depth items, fun r hr r' hr' ↦ ?_⟩
    obtain ⟨d, l, hd, rfl⟩ := mem_rows (depth + 1) i r (List.mem_of_getLast? hr)
    rw [Next, head?_rowsAll (depth + 1) items r' hr', l.row_level]
    omega

end

end Item

namespace Source

theorem lines_dump (s : Source) : Text.lines s.dump = s.rows.map Row.text := by
  refine Text.lines_join fun line hline ↦ ?_
  obtain ⟨r, -, rfl⟩ := List.mem_map.mp hline
  exact r.whole

theorem recordsOf_dump (s : Source) : recordsOf (Text.lines s.dump) = s.rows.map Row.record := by
  have hread : Record.ofLine? ∘ Row.text = some ∘ Row.record := funext Row.ofLine?_text
  rw [recordsOf, lines_dump, List.filterMap_map, hread, List.filterMap_eq_map]

theorem wellFormed (s : Source) : WellFormed (recordsOf (Text.lines s.dump)) := by
  rw [recordsOf_dump]
  have hrow : ∀ r ∈ s.rows.map Row.record, ∃ d l, r = (Label.row d l).record := by
    intro r hr
    obtain ⟨row, hrow, rfl⟩ := List.mem_map.mp hr
    obtain ⟨d, l, -, rfl⟩ := Item.mem_rows 0 s.root row hrow
    exact ⟨d, l, rfl⟩
  exact {
    ne_nil := by simp [rows, root, Item.rows]
    known := fun r hr ↦ by
      obtain ⟨d, l, rfl⟩ := hrow r hr
      exact ⟨l.kind, l.ofName?_row d⟩
    root := by
      rintro r ⟨⟩
      exact ⟨rfl, s.c, s.name.resolves⟩
    later := by
      rw [List.isChain_map]
      exact Item.isChain_rows 0 s.root
    brackets := fun r hr ⟨c, hc⟩ ↦ by
      obtain ⟨d, l, rfl⟩ := hrow r hr
      have hkind : l.kind = .bracket c := Option.some.inj ((l.ofName?_row d).symm.trans hc)
      exact Payload.decode_length (l.decode_row d 0) (hkind ▸ rfl) }

theorem emit_dump (s : Source) :
    Emitter.emit (recordsOf (Text.lines s.dump)) = openTag ++ s.yield := by
  rw [recordsOf_dump, Emitter.emit, Emitter.finish_eq_close, rows,
    Item.foldl_rows 0 {} (by simp) s.root]
  rfl

/-- Printing a source as a dump and converting that gives the text of the source back, unless an
outline is asked for and cannot be written. -/
theorem convertDump_yield {m : Type → Type} [Monad m] [LawfulMonad m] (host : Host m) (s : Source)
    (options : Options) :
    ∃ outline done failed,
      convertDump host s.dump options = options.outlined host outline done failed ∧
      done.result.map Conversion.output = .ok (openTag ++ s.yield) ∧
      failed.result = .error .fileFailure := by
  obtain ⟨⟨tree, stats⟩, hok⟩ := Tree.ofLines?_of_wellFormed s.wellFormed
  obtain ⟨outline, done, failed, hconvert, hdone, hfailed⟩ :=
    convertDump_emit host s.dump options hok
  refine ⟨outline, done, failed, hconvert, ?_, hfailed⟩
  rw [hdone, ← s.emit_dump]
  rfl

def sample : Source where
  c := .whole
  name := .of "PPI::Document" (by decide +kernel)
  items :=
    let gap : Gap := ⟨['\t', ' '], by simp, by simp [Text.isBlank, Text.blankCodes]⟩
    let statement := Label.container (.statement .plain) rfl
      (.of "PPI::Statement" (by decide +kernel))
    let word := Label.token .word (.of "PPI::Token::Word" (by decide +kernel)) gap
      "it's".toList (by decide : '\n' ∉ _)
    let space := Label.token .whitespace (.of "PPI::Token::Whitespace" (by decide +kernel)) gap
      " \n".toList (by decide : '\\' ∉ _)
    let list := Label.bracket .list (.of "PPI::Structure::List" (by decide +kernel)) gap
      ⟨'(', by decide⟩ ⟨')', by decide⟩
    let comment := Label.token .comment (.of "PPI::Token::Comment" (by decide +kernel)) gap
      "#\\n\n".toList (by decide : '\x01' ∉ _)
    [.node statement [.node word [], .node space [], .node list [.node comment []]]]

theorem convertDump_yield_sample :
    sample.dump = Text.join ['\n'] (["PPI::Document", "  PPI::Statement",
      "    PPI::Token::Word\t 'it's'", "    PPI::Token::Whitespace\t ' \\n'",
      "    PPI::Structure::List\t ( ... )",
      "      PPI::Token::Comment\t '#\\\\n\\n'"].map String.toList) ∧
    (∃ outline done failed,
      convertDump Host.bare sample.dump {} = ({} : Options).outlined .bare outline done failed ∧
      done.result.map Conversion.output = .ok (openTag ++ sample.yield) ∧
      failed.result = .error .fileFailure) ∧
    openTag ++ sample.yield = "<?php\nit's \n(#\\n\n)".toList :=
  ⟨by decide +kernel, convertDump_yield Host.bare sample {}, by decide +kernel⟩

end Source

end PpiDump
