import Mathlib.Algebra.Group.Even
import Mathlib.Data.List.Basic
import Mathlib.Data.List.TakeWhile
import PpiDump.Record

namespace PpiDump

section

variable {α : Type} {p : α → Bool} {body rest : List α}

theorem takeWhile_append_stop (hbody : ∀ a ∈ body, p a) (hrest : ∀ a ∈ rest.head?, ¬p a) :
    (body ++ rest).takeWhile p = body := by
  rw [List.takeWhile_append_of_pos hbody]
  cases rest with
  | nil => simp
  | cons a rest => rw [List.takeWhile_cons_of_neg (hrest a rfl), List.append_nil]

theorem dropWhile_append_stop (hbody : ∀ a ∈ body, p a) (hrest : ∀ a ∈ rest.head?, ¬p a) :
    (body ++ rest).dropWhile p = rest := by
  rw [List.dropWhile_append_of_pos hbody]
  cases rest with
  | nil => rfl
  | cons a rest => rw [List.dropWhile_cons_of_neg (hrest a rfl)]

theorem append_stop_cancel {body' rest' : List α} (hbody : ∀ a ∈ body, p a)
    (hbody' : ∀ a ∈ body', p a) (hrest : ∀ a ∈ rest.head?, ¬p a) (hrest' : ∀ a ∈ rest'.head?, ¬p a)
    (h : body ++ rest = body' ++ rest') : body = body' ∧ rest = rest' := by
  have htake := congrArg (List.takeWhile p) h
  have hdrop := congrArg (List.dropWhile p) h
  rw [takeWhile_append_stop hbody hrest, takeWhile_append_stop hbody' hrest'] at htake
  rw [dropWhile_append_stop hbody hrest, dropWhile_append_stop hbody' hrest'] at hdrop
  exact ⟨htake, hdrop⟩

theorem eq_nil_of_head (h : ∀ a ∈ rest.head?, p a) (h' : ∀ a ∈ rest.head?, ¬p a) : rest = [] := by
  cases rest with
  | nil => rfl
  | cons a rest => exact absurd (h a rfl) (h' a rfl)

theorem exists_append_stop (p : α → Bool) (as : List α) :
    ∃ body rest, body ++ rest = as ∧ (∀ a ∈ body, p a) ∧ ∀ a ∈ rest.head?, ¬p a := by
  refine ⟨as.takeWhile p, as.dropWhile p, List.takeWhile_append_dropWhile, ?_, ?_⟩
  · intro a ha
    exact List.mem_takeWhile_imp ha
  · intro a ha
    have hhead := List.head?_dropWhile_not p as
    rw [ha] at hhead
    simpa using hhead

end

namespace Text

variable {t u : Text}

/-- Nothing blank at the end. -/
def Trimmed (t : Text) : Prop := ∀ c ∈ t.getLast?, ¬isBlank c

theorem Trimmed.trimEnd_eq (h : Trimmed t) : trimEnd t = t := by
  have hhead : t.reverse.dropWhile isBlank = t.reverse := by
    cases hr : t.reverse with
    | nil => rfl
    | cons c r =>
      refine List.dropWhile_cons_of_neg (h c ?_)
      rw [← List.head?_reverse, hr]
      rfl
  rw [trimEnd, hhead, List.reverse_reverse]

theorem trimmed_trimEnd (t : Text) : Trimmed (trimEnd t) := by
  intro c hc
  rw [trimEnd, List.getLast?_reverse] at hc
  have hhead := List.head?_dropWhile_not isBlank t.reverse
  rw [hc] at hhead
  simpa using hhead

theorem Trimmed.of_append (h : Trimmed (t ++ u)) : Trimmed u := by
  intro c hc
  apply h c
  rw [List.getLast?_append, hc]
  rfl

theorem Trimmed.append (h : Trimmed u) (hne : u ≠ []) (t : Text) : Trimmed (t ++ u) := by
  intro c hc
  rw [List.getLast?_append_of_ne_nil _ hne] at hc
  exact h c hc

theorem trimmed_of_solid (h : ∀ c ∈ t, ¬isBlank c) : Trimmed t := by
  intro c hc
  exact h c (List.mem_of_getLast? hc)

theorem trimEnd_append_blank (hu : ∀ c ∈ u, isBlank c) (t : Text) :
    trimEnd (t ++ u) = trimEnd t := by
  have hreverse : ∀ c ∈ u.reverse, isBlank c := by
    intro c hc
    exact hu c (List.mem_reverse.mp hc)
  rw [trimEnd, List.reverse_append, List.dropWhile_append_of_pos hreverse, trimEnd]

theorem exists_trail (t : Text) : ∃ u, trimEnd t ++ u = t ∧ ∀ c ∈ u, isBlank c := by
  refine ⟨(t.reverse.takeWhile isBlank).reverse, ?_, ?_⟩
  · rw [trimEnd, ← List.reverse_append, List.takeWhile_append_dropWhile, List.reverse_reverse]
  · intro c hc
    exact List.mem_takeWhile_imp (List.mem_reverse.mp hc)

end Text

/-- What stands in a line, from its start to its end. -/
@[ext]
structure Parts where
  indent : Text
  kind : Text
  gap : Text
  content : Text
  trail : Text
  indent_blank : ∀ c ∈ indent, Text.isBlank c
  kind_ne_nil : kind ≠ []
  kind_solid : ∀ c ∈ kind, ¬Text.isBlank c
  gap_blank : ∀ c ∈ gap, Text.isBlank c
  apart : gap = [] ↔ content = []
  content_head : ∀ c ∈ content.head?, ¬Text.isBlank c
  content_last : ∀ c ∈ content.getLast?, ¬Text.isBlank c
  trail_blank : ∀ c ∈ trail, Text.isBlank c

namespace Parts

open Text

variable {p p' : Parts}

def body (p : Parts) : Text := p.indent ++ (p.kind ++ (p.gap ++ p.content))

def text (p : Parts) : Text := p.body ++ p.trail

/-- Two characters of indent make a level. -/
def record (p : Parts) : Record := ⟨p.indent.length / 2, p.kind, p.content⟩

theorem trimmed_body (p : Parts) : Trimmed p.body := by
  rw [body]
  by_cases hcontent : p.content = []
  · rw [hcontent, p.apart.mpr hcontent, List.append_nil, List.append_nil]
    exact (trimmed_of_solid p.kind_solid).append p.kind_ne_nil p.indent
  · have hlast : Trimmed p.content := p.content_last
    rw [← List.append_assoc, ← List.append_assoc]
    exact hlast.append hcontent _

theorem trimEnd_text (p : Parts) : trimEnd p.text = p.body := by
  rw [text, trimEnd_append_blank p.trail_blank, p.trimmed_body.trimEnd_eq]

theorem kind_head (p : Parts) : ∀ c ∈ (p.kind ++ (p.gap ++ p.content)).head?, ¬isBlank c := by
  intro c hc
  rw [List.head?_append_of_ne_nil _ p.kind_ne_nil] at hc
  exact p.kind_solid c (List.mem_of_mem_head? hc)

theorem kind_all (p : Parts) : ∀ c ∈ p.kind, !isBlank c := by
  simpa using p.kind_solid

theorem gap_head (p : Parts) : ∀ c ∈ (p.gap ++ p.content).head?, ¬(!isBlank c) := by
  intro c hc
  by_cases hgap : p.gap = []
  · rw [hgap, p.apart.mp hgap] at hc
    cases hc
  · rw [List.head?_append_of_ne_nil _ hgap] at hc
    simp [p.gap_blank c (List.mem_of_mem_head? hc)]

theorem ofLine?_text (p : Parts) : Record.ofLine? p.text = some p.record := by
  simp only [Record.ofLine?, p.trimEnd_text]
  rw [body, takeWhile_append_stop p.indent_blank p.kind_head,
    dropWhile_append_stop p.indent_blank p.kind_head, takeWhile_append_stop p.kind_all p.gap_head,
    dropWhile_append_stop p.kind_all p.gap_head, dropWhile_append_stop p.gap_blank p.content_head]
  simp [p.kind_ne_nil, record]

theorem text_injective (h : p.text = p'.text) : p = p' := by
  have hbody : p.body = p'.body := by rw [← p.trimEnd_text, ← p'.trimEnd_text, h]
  have htrail : p.trail = p'.trail := by
    rw [text, text, hbody] at h
    exact List.append_cancel_left h
  obtain ⟨hindent, hrest⟩ := append_stop_cancel p.indent_blank p'.indent_blank p.kind_head
    p'.kind_head hbody
  obtain ⟨hkind, hrest⟩ := append_stop_cancel p.kind_all p'.kind_all p.gap_head p'.gap_head hrest
  obtain ⟨hgap, hcontent⟩ := append_stop_cancel p.gap_blank p'.gap_blank p.content_head
    p'.content_head hrest
  exact Parts.ext hindent hkind hgap hcontent htrail

theorem exists_text {line : Text} (h : ∃ c ∈ line, ¬isBlank c) : ∃ p : Parts, p.text = line := by
  obtain ⟨trail, hline, htrail⟩ := exists_trail line
  have htrimmed := trimmed_trimEnd line
  obtain ⟨indent, rest, hbody, hindent, hrest⟩ := exists_append_stop isBlank (trimEnd line)
  obtain ⟨kind, after, rfl, hkind, hafter⟩ := exists_append_stop (!isBlank ·) rest
  obtain ⟨gap, content, rfl, hgap, hcontent⟩ := exists_append_stop isBlank after
  simp only [Bool.not_eq_true', Bool.not_eq_false] at hkind hafter
  have hkind_ne_nil : kind ≠ [] := by
    rintro rfl
    rw [List.nil_append] at hrest hbody
    have hnil := eq_nil_of_head hafter hrest
    obtain ⟨c, hc, hsolid⟩ := h
    rw [← hline, ← hbody, hnil, List.append_nil, List.mem_append] at hc
    rcases hc with hc | hc
    · exact hsolid (hindent c hc)
    · exact hsolid (htrail c hc)
  have hlast : Trimmed (gap ++ content) := by
    rw [← hbody] at htrimmed
    exact htrimmed.of_append.of_append
  have hgap_nil : gap = [] → content = [] := by
    rintro rfl
    exact eq_nil_of_head hafter hcontent
  have hcontent_nil : content = [] → gap = [] := by
    rintro rfl
    rw [List.append_nil] at hlast
    by_contra hne
    have hmem := List.getLast_mem hne
    exact hlast _ (List.getLast?_eq_getLast_of_ne_nil hne) (hgap _ hmem)
  let p : Parts := {
    indent, kind, gap, content, trail
    indent_blank := hindent
    kind_ne_nil := hkind_ne_nil
    kind_solid := by simpa using hkind
    gap_blank := hgap
    apart := ⟨hgap_nil, hcontent_nil⟩
    content_head := hcontent
    content_last := hlast.of_append
    trail_blank := htrail }
  refine ⟨p, ?_⟩
  rw [← hline, ← hbody]
  rfl

end Parts

namespace Record

open Text

variable {line : Text} {r : Record}

theorem ofLine?_of_blank (h : ∀ c ∈ line, isBlank c) : ofLine? line = none := by
  have htrim : trimEnd line = [] := trimEnd_append_blank h []
  simp [ofLine?, htrim]

theorem ofLine?_eq_none_iff : ofLine? line = none ↔ ∀ c ∈ line, isBlank c := by
  refine ⟨fun hnone ↦ ?_, ofLine?_of_blank⟩
  by_contra hsolid
  push Not at hsolid
  obtain ⟨p, rfl⟩ := Parts.exists_text hsolid
  rw [p.ofLine?_text] at hnone
  cases hnone

theorem exists_parts (h : ofLine? line = some r) : ∃ p : Parts, p.text = line ∧ p.record = r := by
  have hsolid : ∃ c ∈ line, ¬isBlank c := by
    by_contra hblank
    push Not at hblank
    rw [ofLine?_of_blank hblank] at h
    cases h
  obtain ⟨p, rfl⟩ := Parts.exists_text hsolid
  exact ⟨p, rfl, Option.some.inj (p.ofLine?_text.symm.trans h)⟩

theorem ofLine?_content (h : ofLine? line = some r) :
    (∀ c ∈ r.content.head?, ¬isBlank c) ∧ Trimmed r.content := by
  obtain ⟨p, -, rfl⟩ := exists_parts h
  exact ⟨p.content_head, p.content_last⟩

/-- Lines with a record are those that fall into parts, each in one way, and the record tells no
more of the blanks than how many levels they indent the line. -/
theorem ofLine?_parts :
    (∀ line, ofLine? line = none ↔ ∀ c ∈ line, isBlank c) ∧
      (∀ line, (∃ c ∈ line, ¬isBlank c) → ∃! p : Parts, p.text = line) ∧
      (∀ p : Parts, ofLine? p.text = some ⟨p.indent.length / 2, p.kind, p.content⟩) ∧
      ∀ p p' : Parts, p'.kind = p.kind → p'.content = p.content →
        (p'.indent.length = p.indent.length ∨
          Even p.indent.length ∧ p'.indent.length = p.indent.length + 1) →
        ofLine? p'.text = ofLine? p.text := by
  refine ⟨fun line ↦ ofLine?_eq_none_iff, ?_, fun p ↦ p.ofLine?_text, ?_⟩
  · intro line hsolid
    obtain ⟨p, hp⟩ := Parts.exists_text hsolid
    exact ⟨p, hp, fun p' hp' ↦ Parts.text_injective (hp'.trans hp.symm)⟩
  · intro p p' hkind hcontent hindent
    have hlevel : p'.indent.length / 2 = p.indent.length / 2 := by
      rcases hindent with hsame | ⟨⟨k, hk⟩, hmore⟩
      · rw [hsame]
      · omega
    rw [p.ofLine?_text, p'.ofLine?_text, Parts.record, Parts.record, hlevel, hkind, hcontent]

theorem ofLine?_parts_blanks :
    let content : Text := ['x', ' ', '\n', 'y']
    let p : Parts := {
      indent := ['\u2003', '\t'], kind := ['A'], gap := ['\u3000'], content, trail := ['\u0085']
      indent_blank := List.all_eq_true.mp (by decide), kind_ne_nil := by decide
      kind_solid := List.forall_mem_singleton.mpr (by decide)
      gap_blank := List.all_eq_true.mp (by decide), apart := by decide
      content_head := by rintro c ⟨⟩; decide
      content_last := by rintro c ⟨⟩; decide
      trail_blank := List.all_eq_true.mp (by decide) }
    let p' : Parts := {
      indent := [' ', '\r', ' '], kind := ['A'], gap := [' ', '\n'], content, trail := []
      indent_blank := List.all_eq_true.mp (by decide), kind_ne_nil := by decide
      kind_solid := List.forall_mem_singleton.mpr (by decide)
      gap_blank := List.all_eq_true.mp (by decide), apart := by decide
      content_head := by rintro c ⟨⟩; decide
      content_last := by rintro c ⟨⟩; decide
      trail_blank := List.all_eq_true.mp (by decide) }
    (∃ c ∈ p'.text, ¬isBlank c) ∧ (∃! q : Parts, q.text = p'.text) ∧
      ofLine? p'.text = ofLine? p.text ∧ ofLine? p.text = some ⟨1, ['A'], content⟩ := by
  intro content p p'
  obtain ⟨-, hparts, hrecord, hsame⟩ := ofLine?_parts
  have hsolid : ∃ c ∈ p'.text, ¬isBlank c := ⟨'A', by decide, by decide⟩
  have hindent : Even p.indent.length ∧ p'.indent.length = p.indent.length + 1 := ⟨⟨1, rfl⟩, rfl⟩
  have hread : ofLine? p.text = some ⟨1, ['A'], content⟩ := by
    rw [hrecord p]
    decide
  exact ⟨hsolid, hparts p'.text hsolid, hsame p p' rfl rfl (.inr hindent), hread⟩

end Record

end PpiDump
