import PpiDump.Proofs.Content
import PpiDump.Proofs.Escapes
import PpiDump.Proofs.Growth
import PpiDump.Proofs.Lines
import PpiDump.Proofs.Outline

namespace PpiDump

namespace Kind

theorem mem_all (k : Kind) : k ∈ all := by
  cases k with
  | node => decide
  | document c | statement c | bracket c | token c => cases c <;> decide

theorem ofName?_tag (k : Kind) : ofName? k.tag = some k := by
  have hall : all.all (fun k ↦ ofName? k.tag = some k) := by decide +kernel
  simpa using List.all_eq_true.mp hall k (mem_all k)

theorem tag_injective {k k' : Kind} (h : k.tag = k'.tag) : k = k' := by
  have hname := ofName?_tag k
  rw [h, ofName?_tag k'] at hname
  exact (Option.some.inj hname).symm

theorem tag_solid (k : Kind) : k.tag ≠ [] ∧ ∀ c ∈ k.tag, ¬Text.isBlank c := by
  have hall : all.all (fun k ↦ !k.tag.isEmpty && k.tag.all (!Text.isBlank ·)) := by decide +kernel
  simpa using List.all_eq_true.mp hall k (mem_all k)

end Kind

namespace Payload

/-- Delimiters that do not break the line on which they are written. -/
def Legible (p : Payload) : Prop :=
  ∀ opening closing, p = .delimiters opening closing →
    ¬Text.isBlank opening ∧ ¬Text.isBlank closing

theorem decode_legible {rule : ContentRule} {content : Text} {id : Nat} {p : Payload}
    (h : decode rule content id = .ok p) (hhead : ∀ c ∈ content.head?, ¬Text.isBlank c)
    (hlast : Text.Trimmed content) : p.Legible := by
  rintro opening closing rfl
  cases rule with
  | delimiters =>
    simp only [decode] at h
    split at h
    · cases h
      exact ⟨hhead _ rfl, hlast _ rfl⟩
    · cases h
  | nothing | layout | comment | verbatim => cases h

theorem newline_notMem_outline {p : Payload} (h : p.Legible) : '\n' ∉ p.outline := by
  cases p with
  | empty => exact List.not_mem_nil
  | text t =>
    intro hmem
    simp only [outline, List.mem_append, List.mem_cons, List.not_mem_nil] at hmem
    have := Text.newline_notMem_escape t
    simp_all
  | delimiters opening closing =>
    obtain ⟨hopening, hclosing⟩ := h opening closing rfl
    intro hmem
    simp only [outline, List.mem_cons, List.not_mem_nil, or_false] at hmem
    rcases hmem with hc | rfl | hc | hc | hc | hc | hc | rfl
    · cases hc
    · exact hopening rfl
    · cases hc
    · cases hc
    · cases hc
    · cases hc
    · cases hc
    · exact hclosing rfl

theorem outline_getLast? {p : Payload} (h : p.Legible) : p.outline.getLast? ≠ some '\r' := by
  cases p with
  | empty => simp [outline]
  | text t =>
    rw [outline, List.getLast?_concat]
    decide
  | delimiters opening closing =>
    intro hlast
    obtain rfl : closing = '\r' := Option.some.inj hlast
    exact (h opening '\r' rfl).2 rfl

theorem outline_head? (p : Payload) : ∀ c ∈ p.outline.head?, c = ' ' := by
  intro c hc
  cases p with
  | empty => cases hc
  | text | delimiters => exact (Option.some.inj hc).symm

theorem outline_cancel {kind : Kind} {content content' : Text} {id id' : Nat} {p p' : Payload}
    (hp : decode kind.rule content id = .ok p) (hp' : decode kind.rule content' id' = .ok p')
    (h : p.outline = p'.outline) : p = p' := by
  obtain ⟨hbracket, htoken, hcontainer⟩ := decode_shape hp
  obtain ⟨hbracket', htoken', hcontainer'⟩ := decode_shape hp'
  cases p with
  | empty => exact (hcontainer'.mp (hcontainer.mpr rfl)).symm
  | text t =>
    obtain ⟨t', rfl⟩ := htoken'.mp (htoken.mpr ⟨t, rfl⟩)
    have hquoted : Text.escape t ++ ['\''] = Text.escape t' ++ ['\''] := by
      simpa only [outline, List.append_assoc, List.append_cancel_left_eq] using h
    rw [Text.escape_injective (List.append_cancel_right hquoted)]
  | delimiters opening closing =>
    obtain ⟨opening', closing', rfl⟩ := hbracket'.mp (hbracket.mpr ⟨opening, closing, rfl⟩)
    simp only [outline, List.cons.injEq, true_and, and_true] at h
    rw [h.1, h.2]

end Payload

namespace Text

theorem lines_flatMap_feed {α : Type} {f : α → Text} {as : List α}
    (h : ∀ a ∈ as, '\n' ∉ f a ∧ (f a).getLast? ≠ some '\r') :
    lines (as.flatMap fun a ↦ f a ++ ['\n']) = as.map f := by
  induction as with
  | nil => rfl
  | cons a as ih =>
    obtain ⟨hfeed, hreturn⟩ := h a List.mem_cons_self
    have hrest := ih fun a' ha' ↦ h a' (List.mem_cons_of_mem a ha')
    rw [List.flatMap_cons, List.append_assoc, List.singleton_append,
      lines_append_feed hfeed hreturn, hrest, List.map_cons]

end Text

namespace Node

/-- The line of a node in an outline. -/
def entry (node : Node) : Text :=
  Text.ofNat node.id ++ ([' '] ++ (Text.spaces (2 * node.level) ++
    (node.kind.tag ++ node.payload.outline)))

variable {node node' : Node}

theorem outline_eq_entry (node : Node) : node.outline = node.entry ++ ['\n'] := by
  simp only [outline, entry, List.append_assoc]

theorem newline_notMem_entry (h : node.payload.Legible) : '\n' ∉ node.entry := by
  have hid : '\n' ∉ Text.ofNat node.id := fun hmem ↦
    absurd (Text.isDigit_of_mem_ofNat hmem) (by decide)
  have htag : '\n' ∉ node.kind.tag := fun hmem ↦ node.kind.tag_solid.2 _ hmem rfl
  have hpayload := Payload.newline_notMem_outline h
  simp [entry, Text.spaces, hid, htag, hpayload]

theorem entry_getLast? (h : node.payload.Legible) : node.entry.getLast? ≠ some '\r' := by
  intro hlast
  obtain ⟨hne, hsolid⟩ := node.kind.tag_solid
  have htail : (node.kind.tag ++ node.payload.outline).getLast? = some '\r' := by
    have hne' : node.kind.tag ++ node.payload.outline ≠ [] := by simp [hne]
    rwa [entry, ← List.append_assoc, ← List.append_assoc,
      List.getLast?_append_of_ne_nil _ hne'] at hlast
  by_cases hpayload : node.payload.outline = []
  · rw [hpayload, List.append_nil] at htail
    exact hsolid _ (List.mem_of_getLast? htail) rfl
  · rw [List.getLast?_append_of_ne_nil _ hpayload] at htail
    exact Payload.outline_getLast? h htail

theorem entry_cancel (hid : node.id = node'.id) (h : node.entry = node'.entry) :
    node.level = node'.level ∧ node.kind = node'.kind ∧
      node.payload.outline = node'.payload.outline := by
  have htagHead (x : Node) : ∀ c ∈ (x.kind.tag ++ x.payload.outline).head?, ¬(c == ' ') := by
    intro c hc hspace
    obtain ⟨hne, hsolid⟩ := x.kind.tag_solid
    rw [List.head?_append_of_ne_nil _ hne] at hc
    rw [beq_iff_eq] at hspace
    exact hsolid c (List.mem_of_mem_head? hc) (hspace ▸ rfl)
  have hspaces (x : Node) : ∀ c ∈ Text.spaces (2 * x.level), c == ' ' := by
    intro c hc
    rw [List.eq_of_mem_replicate hc, beq_self_eq_true]
  have htag (x : Node) : ∀ c ∈ x.kind.tag, c != ' ' := by
    intro c hc
    rw [bne_iff_ne]
    rintro rfl
    exact x.kind.tag_solid.2 _ hc rfl
  have hpayload (x : Node) : ∀ c ∈ x.payload.outline.head?, ¬(c != ' ') := by
    intro c hc
    rw [x.payload.outline_head? c hc]
    decide
  rw [entry, entry, hid] at h
  have hindent := List.append_cancel_left (List.append_cancel_left h)
  obtain ⟨hlevels, hrest⟩ := append_stop_cancel (hspaces node) (hspaces node') (htagHead node)
    (htagHead node') hindent
  obtain ⟨htags, hpayloads⟩ := append_stop_cancel (htag node) (htag node') (hpayload node)
    (hpayload node') hrest
  have hlength := congrArg List.length hlevels
  simp only [Text.spaces, List.length_replicate] at hlength
  exact ⟨by omega, Kind.tag_injective htags, hpayloads⟩

def unlined (node : Node) : Node := { node with line := 0 }

end Node

namespace Tree

def unlined (t : Tree) : Tree := ⟨t.nodes.map Node.unlined⟩

variable {ns ns' : List Node}

theorem linked_outline_entries (hs : Levels.Stepped (levelsOf ns)) (hne : ns ≠ []) :
    (linked ns).outline = .ok (ns.flatMap fun node ↦ node.entry ++ ['\n']) := by
  have hlines : (List.range ns.length).map (linked ns).outlineAt =
      ns.map fun node ↦ node.entry ++ ['\n'] := by
    refine List.ext_getElem (by simp) fun i hi hi' ↦ ?_
    have hlt : i < ns.length := by simpa using hi'
    simp only [List.getElem_map, List.getElem_range, outlineAt, linked_get?,
      List.getElem?_eq_getElem hlt, Option.map_some, Option.getD_some, Node.outline_eq_entry]
    rfl
  rw [linked_outline hs hne, List.flatMap_def, hlines, ← List.flatMap_def]

theorem linked_unlined (hlength : ns.length = ns'.length)
    (h : ∀ (i : Nat) (hi : i < ns.length) (hi' : i < ns'.length),
      ns[i].id = ns'[i].id ∧ ns[i].level = ns'[i].level ∧ ns[i].kind = ns'[i].kind ∧
        ns[i].payload = ns'[i].payload) :
    (linked ns).unlined = (linked ns').unlined := by
  have hlevels : levelsOf ns = levelsOf ns' := by
    refine List.ext_getElem (by simpa using hlength) fun i hi hi' ↦ ?_
    simp only [List.getElem_map]
    exact (h i (by simpa using hi) (by simpa using hi')).2.1
  refine ext_get? fun i ↦ ?_
  have hget (ms : List Node) : (linked ms).unlined.get? i =
      (ms[i]?.map ((levelsOf ms).link i)).map Node.unlined := by
    rw [← linked_get?]
    simp [unlined, get?]
  rw [hget, hget, hlevels]
  by_cases hi : i < ns.length
  · have hi' : i < ns'.length := hlength ▸ hi
    obtain ⟨hid, hlevel, hkind, hpayload⟩ := h i hi hi'
    simp only [List.getElem?_eq_getElem hi, List.getElem?_eq_getElem hi', Option.map_some,
      Levels.link, Node.unlined, hid, hlevel, hkind, hpayload]
  · have hi' : ¬i < ns'.length := hlength ▸ hi
    rw [List.getElem?_eq_none (Nat.le_of_not_lt hi), List.getElem?_eq_none (Nat.le_of_not_lt hi')]

end Tree

namespace Builder

variable {b b' : Builder} {rs rs' : List Record} {ns ns' : List Node} {r : Record}

theorem mem_accepted {fs : List Feed} (h : r ∈ b.accepted fs) : ∃ f ∈ fs, f.record? = some r := by
  induction fs generalizing b with
  | nil => cases h
  | cons f fs ih =>
    rw [accepted, List.mem_append] at h
    rcases h with h | h
    · split at h
      · exact ⟨f, List.mem_cons_self, Option.mem_toList.mp h⟩
      · cases h
    · obtain ⟨f', hf', hr⟩ := ih h
      exact ⟨f', List.mem_cons_of_mem f hf', hr⟩

def FromLines (rs : List Record) : Prop := ∀ r ∈ rs, ∃ line, Record.ofLine? line = some r

theorem accepted_fromLines (b : Builder) (dump : List Text) :
    FromLines (b.accepted (dump.map .line)) := by
  intro r hr
  obtain ⟨f, hf, hrecord⟩ := mem_accepted hr
  obtain ⟨line, -, rfl⟩ := List.mem_map.mp hf
  exact ⟨line, hrecord⟩

namespace Holds

theorem describes_getElem (h : b.Holds rs ns) {i : Nat} (hi : i < ns.length) :
    ∃ r ∈ rs, r.Describes ns[i] := by
  have hr : i < rs.length := h.length_eq ▸ hi
  exact ⟨rs[i], List.getElem_mem hr, h.describes.get hr hi⟩

theorem id_getElem (h : b.Holds rs ns) {i : Nat} (hi : i < ns.length) : ns[i].id = i + 1 := by
  have hids := congrArg (·[i]?) h.ids
  simpa [hi, Nat.add_comm] using hids

theorem legible (h : b.Holds rs ns) (hlines : FromLines rs) {node : Node} (hnode : node ∈ ns) :
    node.payload.Legible := by
  obtain ⟨i, hi, rfl⟩ := List.getElem_of_mem hnode
  obtain ⟨r, hr, hdescribes⟩ := h.describes_getElem hi
  obtain ⟨line, hline⟩ := hlines r hr
  obtain ⟨hhead, hlast⟩ := Record.ofLine?_content hline
  exact Payload.decode_legible hdescribes.payload hhead hlast

theorem lines_outline (h : b.Holds rs ns) (hlines : FromLines rs) :
    Text.lines (ns.flatMap fun node ↦ node.entry ++ ['\n']) = ns.map Node.entry := by
  apply Text.lines_flatMap_feed
  intro node hnode
  have hlegible := h.legible hlines hnode
  exact ⟨Node.newline_notMem_entry hlegible, Node.entry_getLast? hlegible⟩

theorem unlined_eq (h : b.Holds rs ns) (h' : b'.Holds rs' ns')
    (hentries : ns.map Node.entry = ns'.map Node.entry) : b.tree.unlined = b'.tree.unlined := by
  have hlength : ns.length = ns'.length := by simpa using congrArg List.length hentries
  rw [h.tree, h'.tree]
  refine Tree.linked_unlined hlength fun i hi hi' ↦ ?_
  have hid : ns[i].id = ns'[i].id := (h.id_getElem hi).trans (h'.id_getElem hi').symm
  have hentry : ns[i].entry = ns'[i].entry := by
    have := congrArg (·[i]?) hentries
    simpa [hi, hi'] using this
  obtain ⟨hlevel, hkind, houtline⟩ := Node.entry_cancel hid hentry
  obtain ⟨r, -, hdescribes⟩ := h.describes_getElem hi
  obtain ⟨r', -, hdescribes'⟩ := h'.describes_getElem hi'
  have hpayload := hdescribes.payload
  rw [hkind] at hpayload
  exact ⟨hid, hlevel, hkind, Payload.outline_cancel hpayload hdescribes'.payload houtline⟩

end Holds

theorem outline_faithful {dump : List Text} {t : Tree} {stats : Stats}
    (h : (({} : Builder).run (dump.map .line)).finish = .ok (t, stats)) :
    ∃ text : Text, t.outline = .ok text ∧ text.lines.length = t.size ∧
      (∀ k node, t.get? k = some node → ∃ line, text.lines[k]? = some line ∧
        Text.ofNat (k + 1) ++ [' '] ++ Text.spaces (2 * node.level) ++ node.kind.tag <+: line) ∧
      ∀ (dump' : List Text) t' stats', (({} : Builder).run (dump'.map .line)).finish = .ok (t', stats') →
        t'.outline = .ok text → t'.unlined = t.unlined := by
  obtain ⟨ns, hns⟩ := holds_empty.run (dump.map .line)
  have hlines := accepted_fromLines {} dump
  obtain ⟨rfl, -, hne⟩ := hns.of_finish h
  have houtline := Tree.linked_outline_entries hns.stepped hne
  rw [← hns.tree] at houtline
  refine ⟨_, houtline, ?_, ?_, ?_⟩
  · rw [hns.lines_outline hlines, List.length_map, hns.size_eq]
  · intro k node hk
    rw [hns.tree, Tree.linked_get?] at hk
    obtain ⟨x, hx, rfl⟩ := Option.map_eq_some_iff.mp hk
    obtain ⟨hlt, rfl⟩ := List.getElem?_eq_some_iff.mp hx
    refine ⟨ns[k].entry, ?_, ns[k].payload.outline, ?_⟩
    · rw [hns.lines_outline hlines, List.getElem?_map, hx, Option.map_some]
    · rw [Node.entry, hns.id_getElem hlt]
      simp [Levels.link]
  · intro dump' t' stats' h' houtline'
    obtain ⟨ns', hns'⟩ := holds_empty.run (dump'.map .line)
    have hlines' := accepted_fromLines {} dump'
    obtain ⟨rfl, -, hne'⟩ := hns'.of_finish h'
    have hentries := Tree.linked_outline_entries hns'.stepped hne'
    rw [← hns'.tree, houtline'] at hentries
    have htexts := congrArg Text.lines (Except.ok.inj hentries)
    rw [hns.lines_outline hlines, hns'.lines_outline hlines'] at htexts
    exact hns'.unlined_eq hns htexts.symm

theorem outline_faithful_feed :
    let dump := ["PPI::Document".toList, "  PPI::Token::Whitespace '\\n'".toList,
      "  PPI::Structure::List ' ... '".toList, "    PPI::Token::Word '\r\\'".toList]
    let dump' := ["PPI::Document".toList, [], "  PPI::Token::Whitespace '\n'".toList,
      "  PPI::Structure::List ' ... '".toList, "    PPI::Token::Word '\r\\'".toList]
    let b := ({} : Builder).run (dump.map .line)
    let b' := ({} : Builder).run (dump'.map .line)
    b.finish = .ok (b.tree, b.stats) ∧ b'.finish = .ok (b'.tree, b'.stats) ∧ b'.tree ≠ b.tree ∧
      b'.tree.unlined = b.tree.unlined ∧ ∃ text : Text, b.tree.outline = .ok text ∧
        text.lines = ["1 PpiDocument".toList, "2   PpiTokenWhitespace '\\n'".toList,
          "3   PpiStructureList ' ... '".toList, "4     PpiTokenWord '\r\\\\'".toList] ∧
        text.lines.length = 4 := by
  intro dump dump' b b'
  have hruns : b.finish = .ok (b.tree, b.stats) ∧ b'.finish = .ok (b'.tree, b'.stats) ∧
      b'.tree ≠ b.tree ∧ b'.tree.outline = b.tree.outline ∧
      b.tree.outline.map Text.lines = .ok ["1 PpiDocument".toList,
        "2   PpiTokenWhitespace '\\n'".toList, "3   PpiStructureList ' ... '".toList,
        "4     PpiTokenWord '\r\\\\'".toList] := by
    decide +kernel
  obtain ⟨h, h', hne, hsame, hlines⟩ := hruns
  obtain ⟨text, htext, hlength, -, hdetermined⟩ := outline_faithful h
  rw [htext] at hlines
  exact ⟨h, h', hne, hdetermined dump' _ _ h' (hsame.trans htext), text, htext,
    Except.ok.inj hlines, hlength⟩

end Builder

end PpiDump
