import PpiDump.Proofs.Parts
import PpiDump.Text.Lines

namespace PpiDump

namespace Text

variable {c : Char} {line rest : Text} {ls : List Text}

theorem isDigit_of_mem_ofNat {n : Nat} {c : Char} (h : c ∈ ofNat n) : c.isDigit :=
  Nat.isDigit_of_mem_toDigits (by decide) (by decide) h

theorem lines_cons (hfeed : c ≠ '\n') (hreturn : c = '\r' → rest.head? ≠ some '\n') :
    lines (c :: rest) =
      match lines rest with
      | [] => [[c]]
      | line :: more => (c :: line) :: more := by
  rw [lines.eq_def]
  split
  · exact absurd ‹_› (List.cons_ne_nil c rest)
  · rename_i heq
    exact absurd (List.cons.inj heq).1 hfeed
  · rename_i heq
    obtain ⟨rfl, rfl⟩ := List.cons.inj heq
    exact absurd rfl (hreturn rfl)
  · rename_i heq
    obtain ⟨rfl, rfl⟩ := List.cons.inj heq
    rfl

theorem lines_append_feed (hfeed : '\n' ∉ line) (hreturn : line.getLast? ≠ some '\r')
    (rest : Text) : lines (line ++ '\n' :: rest) = line :: lines rest := by
  induction line with
  | nil => rw [List.nil_append, lines]
  | cons c line ih =>
    rw [List.mem_cons, not_or] at hfeed
    cases line with
    | nil =>
      rw [List.singleton_append, lines_cons (Ne.symm hfeed.1) fun hc ↦ absurd (hc ▸ rfl) hreturn,
        lines]
    | cons d line =>
      have hd : d ≠ '\n' := fun hd ↦ hfeed.2 (hd ▸ List.mem_cons_self)
      rw [List.cons_append, lines_cons (Ne.symm hfeed.1) fun _ ↦ by simpa using hd,
        ih hfeed.2 (by rwa [List.getLast?_cons_cons] at hreturn)]

theorem lines_append_return (hfeed : '\n' ∉ line) (rest : Text) :
    lines (line ++ '\r' :: '\n' :: rest) = line :: lines rest := by
  induction line with
  | nil => rw [List.nil_append, lines]
  | cons c line ih =>
    rw [List.mem_cons, not_or] at hfeed
    have hhead : (line ++ '\r' :: '\n' :: rest).head? ≠ some '\n' := by
      cases line with
      | nil => simp
      | cons d line =>
        intro h
        obtain rfl : d = '\n' := Option.some.inj h
        exact hfeed.2 List.mem_cons_self
    rw [List.cons_append, lines_cons (Ne.symm hfeed.1) fun _ ↦ hhead, ih hfeed.2]

theorem lines_of_notMem (hfeed : '\n' ∉ line) (hne : line ≠ []) : lines line = [line] := by
  induction line with
  | nil => exact absurd rfl hne
  | cons c line ih =>
    rw [List.mem_cons, not_or] at hfeed
    have hhead : line.head? ≠ some '\n' := fun h ↦ hfeed.2 (List.mem_of_mem_head? h)
    rw [lines_cons (Ne.symm hfeed.1) fun _ ↦ hhead]
    cases line with
    | nil => rfl
    | cons d line => rw [ih hfeed.2 (List.cons_ne_nil d line)]

/-- A line that stays one when lines are joined: nothing ends it early or is taken off its end. -/
structure Whole (line : Text) : Prop where
  ne_nil : line ≠ []
  feed : '\n' ∉ line
  last : line.getLast? ≠ some '\r'

theorem lines_join (h : ∀ line ∈ ls, Whole line) : lines (join ['\n'] ls) = ls := by
  induction ls with
  | nil => rfl
  | cons line ls ih =>
    obtain ⟨hne, hfeed, hlast⟩ := h line List.mem_cons_self
    have hls := ih fun l hl ↦ h l (List.mem_cons_of_mem line hl)
    cases ls with
    | nil =>
      rw [join, List.intercalate_singleton]
      exact lines_of_notMem hfeed hne
    | cons next ls =>
      rw [join, List.intercalate_cons_cons, List.append_assoc, List.singleton_append,
        lines_append_feed hfeed hlast, ← join, hls]

end Text

/-- A line of a dump in its parts, laid out so that they can be told apart. -/
structure Row where
  level : Nat
  name : Text
  gap : Text := []
  content : Text := []
  name_ne_nil : name ≠ []
  name_solid : ∀ c ∈ name, ¬Text.isBlank c
  gap_blank : ∀ c ∈ gap, Text.isBlank c ∧ c ≠ '\n'
  apart : gap = [] ↔ content = []
  content_solid : ∀ c ∈ content.head?, ¬Text.isBlank c
  content_feed : '\n' ∉ content
  content_trimmed : Text.Trimmed content

namespace Row

open Text

variable {r : Row}

def text (r : Row) : Text := spaces (2 * r.level) ++ (r.name ++ (r.gap ++ r.content))

def record (r : Row) : Record := ⟨r.level, r.name, r.content⟩

def parts (r : Row) : Parts where
  indent := spaces (2 * r.level)
  kind := r.name
  gap := r.gap
  content := r.content
  trail := []
  indent_blank := by
    intro c hc
    rw [List.eq_of_mem_replicate hc]
    rfl
  kind_ne_nil := r.name_ne_nil
  kind_solid := r.name_solid
  gap_blank := fun c hc ↦ (r.gap_blank c hc).1
  apart := r.apart
  content_head := r.content_solid
  content_last := r.content_trimmed
  trail_blank := by simp

theorem text_parts (r : Row) : r.parts.text = r.text := by
  rw [Parts.text, text]
  exact List.append_nil _

theorem trimmed (r : Row) : Trimmed r.text := by
  rw [text]
  exact r.parts.trimmed_body

theorem whole (r : Row) : Whole r.text where
  ne_nil := by simp [text, r.name_ne_nil]
  feed := by
    have hname : '\n' ∉ r.name := fun h ↦ r.name_solid _ h (by decide)
    have hgap : '\n' ∉ r.gap := fun h ↦ (r.gap_blank _ h).2 rfl
    simp [text, spaces, hname, hgap, r.content_feed]
  last := fun h ↦ r.trimmed _ h (by decide)

theorem ofLine?_text (r : Row) : Record.ofLine? r.text = some r.record := by
  have hlevel : (spaces (2 * r.level)).length / 2 = r.level := by
    rw [spaces, List.length_replicate]
    omega
  rw [← r.text_parts, r.parts.ofLine?_text, record, Parts.record]
  exact congrArg (fun level ↦ some (⟨level, r.name, r.content⟩ : Record)) hlevel

end Row

end PpiDump
