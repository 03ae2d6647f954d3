import PpiDump.Proofs.Content
import PpiDump.Proofs.Escapes
import PpiDump.Proofs.Lines

namespace PpiDump

/-- A spelling of the class name of a kind. -/
structure ClassName (kind : Kind) where
  text : Text
  solid : ∀ c ∈ text, ¬Text.isBlank c
  resolves : Kind.ofName? text = some kind

namespace ClassName

def of {kind : Kind} (s : String)
    (h : s.toList.all (!Text.isBlank ·) ∧ Kind.ofName? s.toList = some kind) : ClassName kind :=
  ⟨s.toList, by simpa using h.1, h.2⟩

theorem ne_nil {kind : Kind} (name : ClassName kind) : name.text ≠ [] := by
  intro h
  have hnone : Kind.ofName? [] = none := by decide +kernel
  cases hnone.symm.trans (h ▸ name.resolves)

end ClassName

/-- Blanks between a class name and content. -/
structure Gap where
  text : Text
  ne_nil : text ≠ []
  blank : ∀ c ∈ text, Text.isBlank c ∧ c ≠ '\n'

structure Delimiter where
  char : Char
  solid : ¬Text.isBlank char

namespace TokenClass

variable {c : TokenClass} {t : Text}

/-- The texts that a dump can hold in tokens of a class. -/
def Admits : TokenClass → Text → Prop
  | whitespace, t => '\\' ∉ t
  | comment, t => '\x01' ∉ t
  | _, t => '\n' ∉ t

def write : TokenClass → Text → Text
  | whitespace, t => t.flatMap Text.layoutChar
  | comment, t => t.flatMap Text.commentChar
  | _, t => t

theorem verbatim_of_ne (hspace : c ≠ whitespace) (hcomment : c ≠ comment) :
    c.rule = .verbatim ∧ c.write t = t ∧ (c.Admits t ↔ '\n' ∉ t) := by
  cases c <;> first | exact absurd rfl hspace | exact absurd rfl hcomment | exact ⟨rfl, rfl, .rfl⟩

theorem Admits.newline_notMem_write (h : c.Admits t) : '\n' ∉ c.write t := by
  by_cases hspace : c = whitespace
  · subst hspace
    exact Text.newline_notMem_layout t
  by_cases hcomment : c = comment
  · subst hcomment
    exact Text.newline_notMem_comment t
  obtain ⟨-, hwrite, hadmits⟩ := verbatim_of_ne (t := t) hspace hcomment
  rw [hwrite]
  exact hadmits.mp h

theorem Admits.decode_write (h : c.Admits t) (id : Nat) :
    Payload.decode c.rule ('\'' :: (c.write t ++ ['\''])) id = .ok (.text t) := by
  by_cases hspace : c = whitespace
  · subst hspace
    simp only [rule, write, Payload.decode, Text.inner_cons_append, Text.unescape_layout h]
  by_cases hcomment : c = comment
  · subst hcomment
    simp only [rule, write, Payload.decode, Text.unescapeComment_comment h]
  obtain ⟨hrule, hwrite, -⟩ := verbatim_of_ne (t := t) hspace hcomment
  rw [hrule, hwrite, Payload.decode, Text.inner_cons_append]

end TokenClass

/-- What a line of a dump says of a node. -/
inductive Label where
  | container (kind : Kind) (h : kind.isContainer) (name : ClassName kind)
  | bracket (c : StructureClass) (name : ClassName (.bracket c)) (gap : Gap)
      (opening closing : Delimiter)
  | token (c : TokenClass) (name : ClassName (.token c)) (gap : Gap) (t : Text) (h : c.Admits t)

namespace Label

def payload : Label → Payload
  | container .. => .empty
  | bracket _ _ _ opening closing => .delimiters opening.char closing.char
  | token _ _ _ t _ => .text t

theorem quote_solid : ¬Text.isBlank '\'' := by
  decide

def row (depth : Nat) : Label → Row
  | container _ _ name => {
      level := depth
      name := name.text
      name_ne_nil := name.ne_nil
      name_solid := name.solid
      gap_blank := by simp
      apart := by simp
      content_solid := by simp
      content_feed := by simp
      content_trimmed := by simp [Text.Trimmed] }
  | bracket _ name gap opening closing => {
      level := depth
      name := name.text
      gap := gap.text
      content := [opening.char, ' ', '.', '.', '.', ' ', closing.char]
      name_ne_nil := name.ne_nil
      name_solid := name.solid
      gap_blank := gap.blank
      apart := by simp [gap.ne_nil]
      content_solid := by simpa using opening.solid
      content_feed := by
        have hopening : '\n' ≠ opening.char := fun h ↦ opening.solid (h ▸ by decide)
        have hclosing : '\n' ≠ closing.char := fun h ↦ closing.solid (h ▸ by decide)
        simp [hopening, hclosing]
      content_trimmed := by simpa [Text.Trimmed] using closing.solid }
  | token c name gap t h => {
      level := depth
      name := name.text
      gap := gap.text
      content := '\'' :: (c.write t ++ ['\''])
      name_ne_nil := name.ne_nil
      name_solid := name.solid
      gap_blank := gap.blank
      apart := by simp [gap.ne_nil]
      content_solid := by simpa using quote_solid
      content_feed := by simp [h.newline_notMem_write]
      content_trimmed := by
        rw [Text.Trimmed, ← List.cons_append, List.getLast?_concat]
        simpa using quote_solid }

@[simp] theorem row_level (depth : Nat) (l : Label) : (l.row depth).level = depth := by
  cases l <;> rfl

def kind : Label → Kind
  | container kind .. => kind
  | bracket c .. => .bracket c
  | token c .. => .token c

theorem ofName?_row (depth : Nat) (l : Label) : Kind.ofName? (l.row depth).name = some l.kind := by
  cases l with
  | container _ _ name | bracket _ name | token _ name => exact name.resolves

theorem decode_row (depth : Nat) (l : Label) (id : Nat) :
    Payload.decode l.kind.rule (l.row depth).content id = .ok l.payload := by
  cases l with
  | container kind h =>
    cases kind with
    | document c | node | statement c => rfl
    | bracket c | token c => cases h
  | bracket c => rfl
  | token c _ _ _ h => exact h.decode_write id

end Label

/-- A node with what is below it. Also documents and tokens may hold nodes, wherever they stand. -/
inductive Item where
  | node (label : Label) (items : List Item)

namespace Item

mutual

def rows (depth : Nat) : Item → List Row
  | node label items => label.row depth :: rowsAll (depth + 1) items

def rowsAll (depth : Nat) : List Item → List Row
  | [] => []
  | i :: is => rows depth i ++ rowsAll depth is

end

mutual

/-- The text of a source: that of its tokens, and that of a structure between its delimiters. -/
def yield : Item → Text
  | node (.container ..) items => yieldAll items
  | node (.bracket _ _ _ opening closing) items =>
    opening.char :: (yieldAll items ++ [closing.char])
  | node (.token _ _ _ t _) items => t ++ yieldAll items

def yieldAll : List Item → Text
  | [] => []
  | i :: is => yield i ++ yieldAll is

end

end Item

structure Source where
  c : DocumentClass
  name : ClassName (.document c)
  items : List Item

namespace Source

def root (s : Source) : Item := .node (.container (.document s.c) rfl s.name) s.items

def rows (s : Source) : List Row := s.root.rows 0

def dump (s : Source) : Text := Text.join ['\n'] (s.rows.map Row.text)

def yield (s : Source) : Text := s.root.yield

end Source

end PpiDump
