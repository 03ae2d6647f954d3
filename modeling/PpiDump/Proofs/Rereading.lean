import PpiDump.Proofs.Acceptance
import PpiDump.Proofs.Entries
import PpiDump.Proofs.Source

namespace PpiDump

/-- A line of an outline without the id in front of it and the space behind that. -/
def Text.unnumbered (line : Text) : Text := (line.dropWhile Char.isDigit).drop 1

/-- What the content of a token becomes when it is read from an outline. -/
def Kind.reread (kind : Kind) (content : Text) : Text :=
  if kind = .token .whitespace ∨ kind = .token .comment then content else Text.escape content

/-- The content of a record as an outline writes it. -/
def Payload.written : Payload → Text
  | .empty => []
  | .text content => '\'' :: (Text.escape content ++ ['\''])
  | .delimiters opening closing => [opening, ' ', '.', '.', '.', ' ', closing]

def Payload.reread (kind : Kind) : Payload → Payload
  | .text content => .text (kind.reread content)
  | p => p

namespace Node

/-- What a node becomes when it is read from an outline, on some line of the source. -/
def reread (node : Node) (line : Nat) : Node :=
  { node with line, payload := node.payload.reread node.kind }

def record (node : Node) : Record := ⟨node.level, node.kind.tag, node.payload.written⟩

def unnumbered (node : Node) : Text :=
  Text.spaces (2 * node.level) ++ (node.kind.tag ++ node.payload.outline)

end Node

namespace Text

variable {t : Text}

theorem mark_notMem_unescapeComment (raw : Text) : backslashMark ∉ unescapeComment raw := by
  rw [unescapeComment, substitute_single]
  intro h
  obtain ⟨c, -, hc⟩ := List.mem_flatMap.mp h
  split at hc
  · exact absurd (List.mem_singleton.mp hc) (by decide)
  · exact absurd (List.mem_singleton.mp hc).symm ‹_›

theorem escape_eq_layout (h : '\\' ∉ t) : escape t = t.flatMap layoutChar := by
  rw [escape_eq_flatMap]
  refine List.flatMap_congr fun c hc ↦ ?_
  have hne : c ≠ '\\' := fun heq ↦ h (heq ▸ hc)
  rw [commentChar, if_neg hne]

theorem escape_eq_self (hback : '\\' ∉ t) (hfeed : '\n' ∉ t) (htab : '\t' ∉ t) :
    escape t = t := by
  have hself : t.flatMap layoutChar = t.flatMap fun c ↦ [c] := by
    refine List.flatMap_congr fun c hc ↦ ?_
    have hfeed' : c ≠ '\n' := fun heq ↦ hfeed (heq ▸ hc)
    have htab' : c ≠ '\t' := fun heq ↦ htab (heq ▸ hc)
    rw [layoutChar, if_neg hfeed', if_neg htab']
  rw [escape_eq_layout hback, hself, List.flatMap_singleton']

end Text

namespace Payload

variable {kind : Kind} {p : Payload}

theorem decode_written {content : Text} {id : Nat} (h : decode kind.rule content id = .ok p)
    (hspace : kind = .token .whitespace → ∀ t, p = .text t → '\\' ∉ t) (id' : Nat) :
    decode kind.rule p.written id' = .ok (p.reread kind) := by
  obtain ⟨hbracket, htoken, hcontainer⟩ := decode_shape h
  cases kind with
  | document c | node | statement c =>
    obtain rfl := hcontainer.mp rfl
    rfl
  | bracket c =>
    obtain ⟨opening, closing, rfl⟩ := hbracket.mp rfl
    rfl
  | token c =>
    obtain ⟨t, rfl⟩ := htoken.mp rfl
    by_cases hc : c = .whitespace
    · subst hc
      have hback := hspace rfl t rfl
      rw [written, Text.escape_eq_layout hback]
      exact TokenClass.Admits.decode_write (c := .whitespace) hback id'
    by_cases hc' : c = .comment
    · subst hc'
      obtain rfl : Text.unescapeComment content = t := text.inj (Except.ok.inj h)
      rw [written, Text.escape_eq_flatMap]
      exact TokenClass.Admits.decode_write (c := .comment)
        (Text.mark_notMem_unescapeComment content) id'
    · obtain ⟨hrule, -, -⟩ := TokenClass.verbatim_of_ne (t := t) hc hc'
      simp only [Kind.rule, hrule, decode, written, Text.inner_cons_append, reread, Kind.reread,
        Kind.token.injEq, hc, hc', or_self, if_false]

theorem outline_eq_written (p : Payload) :
    p.outline = (if p.written = [] then [] else [' ']) ++ p.written := by
  cases p <;> rfl

theorem written_head? {p : Payload} (h : p.Legible) :
    ∀ c ∈ p.written.head?, ¬Text.isBlank c := by
  intro c hc
  cases p with
  | empty => cases hc
  | text t =>
    obtain rfl := Option.some.inj hc
    exact Label.quote_solid
  | delimiters opening closing =>
    obtain rfl := Option.some.inj hc
    exact (h _ closing rfl).1

theorem trimmed_written {p : Payload} (h : p.Legible) : Text.Trimmed p.written := by
  intro c hc
  cases p with
  | empty => cases hc
  | text t =>
    rw [written, ← List.cons_append, List.getLast?_concat] at hc
    obtain rfl := Option.some.inj hc
    exact Label.quote_solid
  | delimiters opening closing =>
    obtain rfl := Option.some.inj hc
    exact (h opening _ rfl).2

end Payload

namespace Node

variable {node : Node}

def row (node : Node) (h : node.payload.Legible) : Row where
  level := node.level
  name := node.kind.tag
  gap := if node.payload.written = [] then [] else [' ']
  content := node.payload.written
  name_ne_nil := node.kind.tag_solid.1
  name_solid := node.kind.tag_solid.2
  gap_blank := by
    intro c hc
    split at hc
    · cases hc
    · obtain rfl := List.mem_singleton.mp hc
      decide
  apart := by split <;> simp_all
  content_solid := Payload.written_head? h
  content_feed := by
    intro hmem
    have houtline := Payload.newline_notMem_outline h
    rw [Payload.outline_eq_written] at houtline
    exact houtline (List.mem_append_right _ hmem)
  content_trimmed := Payload.trimmed_written h

theorem ofLine?_unnumbered (h : node.payload.Legible) :
    Record.ofLine? node.unnumbered = some node.record := by
  have hrow : (node.row h).text = node.unnumbered := by
    rw [unnumbered, Payload.outline_eq_written]
    rfl
  rw [← hrow]
  exact (node.row h).ofLine?_text

theorem unnumbered_entry (node : Node) : Text.unnumbered node.entry = node.unnumbered := by
  have hdigits : ∀ c ∈ Text.ofNat node.id, c.isDigit := fun c hc ↦ Text.isDigit_of_mem_ofNat hc
  rw [Text.unnumbered, entry, dropWhile_append_stop hdigits (by simp)]
  rfl

theorem link_reread {ls : Levels} {i : Nat} {node' : Node} (hid : node'.id = node.id)
    (hlevel : node'.level = node.level) (hkind : node'.kind = node.kind)
    (hpayload : node'.payload = node.payload.reread node.kind) :
    ls.link i node' = (ls.link i node).reread node'.line := by
  simp only [Levels.link, reread, hid, hlevel, hkind, hpayload]

end Node

namespace Builder

variable {b : Builder} {rs : List Record} {ns : List Node} {r : Record} {lines : List Text}

theorem addRecord_linesSkipped (b : Builder) (r : Record) :
    (b.addRecord r).1.stats.linesSkipped = b.stats.linesSkipped := by
  simp only [addRecord]
  split
  · rfl
  · split <;> rfl

theorem feed_linesSkipped (h : ∀ line ∈ lines, ∃ r, Record.ofLine? line = some r) (b : Builder) :
    (b.feed (lines.map .ok)).1.stats.linesSkipped = b.stats.linesSkipped := by
  induction lines generalizing b with
  | nil => rfl
  | cons line lines ih =>
    obtain ⟨r, hr⟩ := h line List.mem_cons_self
    have hadd := addRecord_linesSkipped { b with stats := b.stats.countLine } r
    simp only [List.map_cons, feed, addLine, hr]
    cases (addRecord { b with stats := b.stats.countLine } r).2 with
    | error e => exact hadd
    | ok i => exact (ih (fun line hline ↦ h line (List.mem_cons_of_mem _ hline)) _).trans hadd

namespace Holds

theorem describes_of_mem (h : b.Holds rs ns) {node : Node} (hnode : node ∈ ns) :
    ∃ r ∈ rs, r.Describes node := by
  obtain ⟨i, hi, rfl⟩ := List.getElem_of_mem hnode
  exact h.describes_getElem hi

theorem exists_linked (h : b.Holds rs ns) {node : Node} (hnode : node ∈ ns) :
    ∃ linked ∈ b.tree.nodes, linked.kind = node.kind ∧ linked.payload = node.payload := by
  obtain ⟨i, hi, rfl⟩ := List.getElem_of_mem hnode
  have hget : b.tree.get? i = some ((levelsOf ns).link i ns[i]) := by
    rw [h.tree, Tree.linked_get?, List.getElem?_eq_getElem hi, Option.map_some]
  exact ⟨_, Array.mem_of_getElem? hget, rfl, rfl⟩

theorem wellFormed_records (h : b.Holds rs ns) (hne : ns ≠ []) :
    WellFormed (ns.map Node.record) where
  ne_nil := by simpa using hne
  known := by
    intro r hr
    obtain ⟨node, -, rfl⟩ := List.mem_map.mp hr
    exact ⟨node.kind, node.kind.ofName?_tag⟩
  root := by
    intro r hr
    rw [List.head?_map, Option.mem_def, Option.map_eq_some_iff] at hr
    obtain ⟨node, hnode, rfl⟩ := hr
    have hlevel := h.stepped.1 node.level (by rw [List.head?_map, hnode]; rfl)
    have hdocument := h.document node hnode
    refine ⟨hlevel, ?_⟩
    cases hkind : node.kind with
    | document c => exact ⟨c, by rw [Node.record, hkind, Kind.ofName?_tag]⟩
    | node | statement c | bracket c | token c =>
      rw [hkind] at hdocument
      cases hdocument
  later := by
    have hchain := h.stepped.2
    rw [List.isChain_map] at hchain ⊢
    exact hchain
  brackets := by
    rintro r hr ⟨c, hc⟩
    obtain ⟨node, hnode, rfl⟩ := List.mem_map.mp hr
    obtain ⟨r', -, hdescribes⟩ := h.describes_of_mem hnode
    have hkind : node.kind = .bracket c := Option.some.inj (node.kind.ofName?_tag.symm.trans hc)
    have hbracket : node.kind.isBracket := by rw [hkind]; rfl
    obtain ⟨opening, closing, hpayload⟩ :=
      (Payload.decode_shape hdescribes.payload).1.mp hbracket
    rw [Node.record, hpayload]
    rfl

theorem recordsOf_unnumbered (h : b.Holds rs ns) (hlines : FromLines rs) :
    recordsOf (ns.map Node.unnumbered) = ns.map Node.record := by
  have hread : ∀ node ∈ ns, (Record.ofLine? ∘ Node.unnumbered) node = (some ∘ Node.record) node :=
    fun node hnode ↦ Node.ofLine?_unnumbered (h.legible hlines hnode)
  rw [recordsOf, List.filterMap_map, List.filterMap_congr hread, List.filterMap_eq_map]

theorem get?_reread {b' : Builder} {ns' : List Node} (h : b.Holds rs ns)
    (h' : b'.Holds (ns.map Node.record) ns')
    (hspace : ∀ node ∈ ns, node.kind = .token .whitespace →
      ∀ t, node.payload = .text t → '\\' ∉ t) {i : Nat} {node : Node}
    (hi : b.tree.get? i = some node) : ∃ line, b'.tree.get? i = some (node.reread line) := by
  have hlevels : levelsOf ns' = levelsOf ns := by
    rw [h'.levels_eq, List.map_map]
    rfl
  rw [h.tree, Tree.linked_get?] at hi
  obtain ⟨x, hx, rfl⟩ := Option.map_eq_some_iff.mp hi
  obtain ⟨hlt, rfl⟩ := List.getElem?_eq_some_iff.mp hx
  have hlt' : i < ns'.length := by simpa [h'.length_eq] using hlt
  have hdescribes' : ns[i].record.Describes ns'[i] := by
    have hrecord : i < (ns.map Node.record).length := by simpa using hlt
    simpa using h'.describes.get hrecord hlt'
  have hkind : ns'[i].kind = ns[i].kind :=
    Option.some.inj (hdescribes'.kind.symm.trans ns[i].kind.ofName?_tag)
  have hpayload : ns'[i].payload = ns[i].payload.reread ns[i].kind := by
    obtain ⟨r, -, hdescribes⟩ := h.describes_getElem hlt
    have hwritten := Payload.decode_written hdescribes.payload
      (hspace ns[i] (List.getElem_mem hlt)) ns'[i].id
    rw [← hkind] at hwritten
    rw [← hkind]
    exact Except.ok.inj (hdescribes'.payload.symm.trans hwritten)
  have hid : ns'[i].id = ns[i].id := (h'.id_getElem hlt').trans (h.id_getElem hlt).symm
  refine ⟨ns'[i].line, ?_⟩
  rw [h'.tree, Tree.linked_get?, List.getElem?_eq_getElem hlt', hlevels, Option.map_some,
    Node.link_reread hid hdescribes'.level hkind hpayload]

end Holds

theorem outline_reread {dump : List Text} {t : Tree} {stats : Stats}
    (h : (({} : Builder).run (dump.map .line)).finish = .ok (t, stats))
    (hspace : ∀ node ∈ t.nodes, node.kind = .token .whitespace →
      ∀ content ∈ node.payload.content?, '\\' ∉ content) :
    ∃ text t' stats', t.outline = .ok text ∧
      Tree.ofLines? (text.lines.map Text.unnumbered) = .ok (t', stats') ∧
      stats'.linesSkipped = 0 ∧ t'.size = t.size ∧
      (∀ k node, t.get? k = some node → ∃ line, t'.get? k = some (node.reread line)) ∧
      ∀ k node content, t.get? k = some node → node.payload = .text content → '\\' ∉ content →
        '\n' ∉ content → '\t' ∉ content → ∃ line, t'.get? k = some { node with line } := by
  obtain ⟨ns, hns⟩ := holds_empty.run (dump.map .line)
  have hlines := accepted_fromLines {} dump
  obtain ⟨rfl, -, hne⟩ := hns.of_finish h
  have houtline := Tree.linked_outline_entries hns.stepped hne
  rw [← hns.tree] at houtline
  have hunnumbered : (Text.lines (ns.flatMap fun node ↦ node.entry ++ ['\n'])).map
      Text.unnumbered = ns.map Node.unnumbered := by
    rw [hns.lines_outline hlines, List.map_map]
    exact List.map_congr_left fun node _ ↦ node.unnumbered_entry
  have hrecords := hns.recordsOf_unnumbered hlines
  obtain ⟨⟨t', stats'⟩, hread⟩ := Tree.ofLines?_of_wellFormed
    (hrecords ▸ hns.wellFormed_records hne)
  obtain ⟨b', ns', hfeed, hns', -, rfl, rfl⟩ := Tree.ofLines?_ok hread
  rw [hrecords] at hns'
  have hskipped : b'.stats.linesSkipped = 0 := by
    have hkept : ∀ line ∈ ns.map Node.unnumbered, ∃ r, Record.ofLine? line = some r := by
      intro line hline
      obtain ⟨node, hnode, rfl⟩ := List.mem_map.mp hline
      exact ⟨node.record, Node.ofLine?_unnumbered (hns.legible hlines hnode)⟩
    have hnone := feed_linesSkipped hkept {}
    rw [hfeed] at hnone
    exact hnone
  have hspace' : ∀ node ∈ ns, node.kind = .token .whitespace →
      ∀ t, node.payload = .text t → '\\' ∉ t := by
    intro node hnode hkind t hpayload
    obtain ⟨linked, hmem, hkind', hpayload'⟩ := hns.exists_linked hnode
    have hcontent : t ∈ linked.payload.content? := by
      rw [hpayload', hpayload]
      rfl
    exact hspace linked hmem (hkind'.trans hkind) t hcontent
  refine ⟨_, b'.tree, b'.stats, houtline, hunnumbered ▸ hread, hskipped, ?_, ?_, ?_⟩
  · rw [hns'.size_eq, hns.size_eq, hns'.length_eq, List.length_map]
  · intro k node hk
    exact hns.get?_reread hns' hspace' hk
  · intro k node content hk hpayload hback hfeed htab
    obtain ⟨line, hline⟩ := hns.get?_reread hns' hspace' hk
    have hsame : node.payload.reread node.kind = node.payload := by
      rw [hpayload, Payload.reread, Kind.reread, Text.escape_eq_self hback hfeed htab, ite_self]
    rw [Node.reread, hsame] at hline
    exact ⟨line, hline⟩

theorem outline_reread_escapes :
    let dump := ["PPI::Document".toList, "  PPI::Token::Whitespace '\\n\t'".toList,
      "  PPI::Structure::List < ... >".toList, "    PPI::Token::Word '\\\n'".toList,
      "  PPI::Token::Comment '#\\\\t\\t'".toList]
    let b := ({} : Builder).run (dump.map .line)
    b.finish = .ok (b.tree, b.stats) ∧
      (∀ node ∈ b.tree.nodes, node.kind = .token .whitespace →
        ∀ content ∈ node.payload.content?, '\\' ∉ content) ∧
      (∃ text t' stats', b.tree.outline = .ok text ∧
        Tree.ofLines? (text.lines.map Text.unnumbered) = .ok (t', stats') ∧
        ∀ k node, b.tree.get? k = some node → ∃ line, t'.get? k = some (node.reread line)) ∧
      (b.tree.nodes.toList.map fun node ↦ (node.reread 1).payload.content?) =
        [none, some ['\n', '\t'], none, some ['\\', '\\', '\\', 'n'],
          some ['#', '\\', 't', '\t']] := by
  intro dump b
  have h : b.finish = .ok (b.tree, b.stats) := by decide +kernel
  have hspace : ∀ node ∈ b.tree.nodes, node.kind = .token .whitespace →
      ∀ content ∈ node.payload.content?, '\\' ∉ content := by
    decide +kernel
  obtain ⟨text, t', stats', htext, hread, -, -, hnodes, -⟩ := outline_reread h hspace
  exact ⟨h, hspace, ⟨text, t', stats', htext, hread, hnodes⟩, by decide +kernel⟩

end Builder

end PpiDump
