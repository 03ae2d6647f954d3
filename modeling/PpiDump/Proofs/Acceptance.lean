import Mathlib.Data.List.Chain
import PpiDump.Proofs.Content
import PpiDump.Proofs.Reading

namespace PpiDump

/-- The records of a dump that becomes a tree. -/
structure WellFormed (rs : List Record) : Prop where
  ne_nil : rs ≠ []
  known : ∀ r ∈ rs, ∃ kind, Kind.ofName? r.kind = some kind
  root : ∀ r ∈ rs.head?, r.level = 0 ∧ ∃ c, Kind.ofName? r.kind = some (.document c)
  later : rs.IsChain fun r r' ↦ 1 ≤ r'.level ∧ r'.level ≤ r.level + 1
  brackets : ∀ r ∈ rs, (∃ c, Kind.ofName? r.kind = some (.bracket c)) → r.content.length = 7

/-- Whether a record of a kind may come next. -/
def InPlace (before : List Record) (r : Record) (kind : Kind) : Prop :=
  match before.getLast? with
  | none => r.level = 0 ∧ kind.isDocument
  | some last => 1 ≤ r.level ∧ r.level ≤ last.level + 1

/-- The fault for which a record is refused after others. -/
inductive Offends (before : List Record) (r : Record) : Error → Prop
  | unknownKind (hkind : Kind.ofName? r.kind = none) : Offends before r (.unknownKind r.kind)
  | badRoot {kind : Kind} (hkind : Kind.ofName? r.kind = some kind) (hfirst : before = [])
      (h : ¬(r.level = 0 ∧ kind.isDocument)) : Offends before r (.badRoot r.kind r.level)
  | secondRoot {kind : Kind} {last : Record} (hkind : Kind.ofName? r.kind = some kind)
      (hlast : before.getLast? = some last) (h : r.level = 0) :
      Offends before r (.secondRoot (before.length + 1))
  | levelJump {kind : Kind} {last : Record} (hkind : Kind.ofName? r.kind = some kind)
      (hlast : before.getLast? = some last) (h : last.level + 1 < r.level) :
      Offends before r (.levelJump (before.length + 1) last.level r.level)
  | content {c : StructureClass} (hkind : Kind.ofName? r.kind = some (.bracket c))
      (hplace : InPlace before r (.bracket c)) (h : r.content.length ≠ 7) :
      Offends before r (.bracketContent (before.length + 1) r.content)

def Follows (before : List Record) (r : Record) : Prop :=
  ∃ kind, Kind.ofName? r.kind = some kind ∧ InPlace before r kind ∧
    (kind.isBracket → r.content.length = 7)

theorem Offends.not_follows {before : List Record} {r : Record} {e : Error}
    (h : Offends before r e) : ¬Follows before r := by
  rintro ⟨kind, hkind, hplace, hbracket⟩
  cases h with
  | unknownKind hnone => cases hnone.symm.trans hkind
  | badRoot hsome hfirst h =>
    cases hsome.symm.trans hkind
    subst hfirst
    exact h hplace
  | secondRoot _ hlast h | levelJump _ hlast h =>
    simp only [InPlace, hlast] at hplace
    omega
  | content hsome _ h =>
    cases hsome.symm.trans hkind
    exact h (hbracket rfl)

namespace Builder

variable {before : List Record} {r : Record} {line : Nat} {e : Error} {kind : Kind}

theorem checkPlace_iff {id : Nat} :
    checkPlace (before.getLast?.map Record.level) kind r id = .ok () ↔ InPlace before r kind := by
  rw [checkPlace_eq_ok_iff, InPlace]
  cases before.getLast? <;> rfl

theorem checkPlace_error (hkind : Kind.ofName? r.kind = some kind)
    (h : checkPlace (before.getLast?.map Record.level) kind r (before.length + 1) = .error e) :
    Offends before r e := by
  cases hlast : before.getLast? with
  | none =>
    simp only [checkPlace, hlast, Option.map_none] at h
    split at h
    · cases h
    · cases h
      exact .badRoot hkind (List.getLast?_eq_none_iff.mp hlast) ‹_›
  | some last =>
    simp only [checkPlace, hlast, Option.map_some] at h
    split at h
    · cases h
      exact .secondRoot hkind hlast ‹_›
    · split at h
      · cases h
        exact .levelJump hkind hlast ‹_›
      · cases h

theorem readNode_offends
    (h : readNode (before.getLast?.map Record.level) line (before.length + 1) r = .error e) :
    Offends before r e := by
  unfold readNode at h
  cases hkind : Kind.ofName? r.kind with
  | none =>
    simp only [hkind] at h
    cases h
    exact .unknownKind hkind
  | some kind =>
    simp only [hkind] at h
    cases hplace : checkPlace (before.getLast?.map Record.level) kind r (before.length + 1) with
    | error e' =>
      rw [hplace] at h
      cases h
      exact checkPlace_error hkind hplace
    | ok u =>
      cases hdecode : Payload.decode kind.rule r.content (before.length + 1) with
      | ok payload => rw [hplace, hdecode] at h; cases h
      | error e' =>
        rw [hplace, hdecode] at h
        cases h
        obtain ⟨hbracket, hlength, rfl⟩ := Payload.decode_error_iff.mp hdecode
        cases kind with
        | bracket c => exact .content hkind (checkPlace_iff.mp hplace) hlength
        | document c | statement c | node | token c => cases hbracket

theorem readNode_of_offends (h : Offends before r e) (line : Nat) :
    readNode (before.getLast?.map Record.level) line (before.length + 1) r = .error e := by
  cases h with
  | unknownKind hkind => simp [readNode, hkind]
  | badRoot hkind hfirst h =>
    subst hfirst
    simp only [readNode, hkind, checkPlace, List.getLast?_nil, Option.map_none, if_neg h]
    rfl
  | secondRoot hkind hlast h =>
    simp only [readNode, hkind, checkPlace, hlast, Option.map_some, if_pos h]
    rfl
  | levelJump hkind hlast h =>
    have hzero : r.level ≠ 0 := by omega
    simp only [readNode, hkind, checkPlace, hlast, Option.map_some, if_pos h, if_neg hzero]
    rfl
  | @content c hkind hplace h =>
    have hdecode : Payload.decode (Kind.bracket c).rule r.content (before.length + 1) =
        .error (.bracketContent (before.length + 1) r.content) :=
      Payload.decode_error_iff.mpr ⟨rfl, h, rfl⟩
    simp only [readNode, hkind, checkPlace_iff.mpr hplace, hdecode]
    rfl

theorem readNode_error_iff :
    readNode (before.getLast?.map Record.level) line (before.length + 1) r = .error e ↔
      Offends before r e :=
  ⟨readNode_offends, fun h ↦ readNode_of_offends h line⟩

theorem readNode_ok_iff (line : Nat) :
    (∃ node, readNode (before.getLast?.map Record.level) line (before.length + 1) r = .ok node) ↔
      Follows before r := by
  constructor
  · rintro ⟨node, h⟩
    obtain ⟨-, hd, -, -, hplace⟩ := readNode_eq_ok h
    exact ⟨node.kind, hd.kind, checkPlace_iff.mp hplace, Payload.decode_length hd.payload⟩
  · intro h
    cases hread : readNode (before.getLast?.map Record.level) line (before.length + 1) r with
    | ok node => exact ⟨node, rfl⟩
    | error e => exact absurd h (readNode_offends hread).not_follows

end Builder

def Acceptable (rs : List Record) : Prop := rs = [] ∨ WellFormed rs

variable {before rs rs' : List Record} {r : Record} {lines : List Text}

theorem WellFormed.of_append (h : WellFormed (rs ++ rs')) (hne : rs ≠ []) : WellFormed rs where
  ne_nil := hne
  known := fun r hr ↦ h.known r (List.mem_append_left _ hr)
  root := fun r hr ↦ h.root r (by rwa [List.head?_append_of_ne_nil _ hne])
  later := (List.isChain_append.mp h.later).1
  brackets := fun r hr ↦ h.brackets r (List.mem_append_left _ hr)

theorem WellFormed.follows (h : WellFormed (before ++ [r])) : Follows before r := by
  have hmem : r ∈ before ++ [r] := by simp
  obtain ⟨kind, hkind⟩ := h.known r hmem
  refine ⟨kind, hkind, ?_, fun hbracket ↦ h.brackets r hmem ?_⟩
  · cases hlast : before.getLast? with
    | none =>
      obtain rfl := List.getLast?_eq_none_iff.mp hlast
      obtain ⟨hlevel, c, hc⟩ := h.root r rfl
      cases hkind.symm.trans hc
      exact ⟨hlevel, rfl⟩
    | some last =>
      simp only [InPlace, hlast]
      exact (List.isChain_append.mp h.later).2.2 last hlast r rfl
  · cases kind with
    | bracket c => exact ⟨c, hkind⟩
    | document c | statement c | node | token c => cases hbracket

theorem Follows.wellFormed (h : Follows before r) (hbefore : Acceptable before) :
    WellFormed (before ++ [r]) := by
  obtain ⟨kind, hkind, hplace, hbracket⟩ := h
  have hlength (hc : ∃ c, Kind.ofName? r.kind = some (.bracket c)) : r.content.length = 7 := by
    obtain ⟨c, hc⟩ := hc
    cases hkind.symm.trans hc
    exact hbracket rfl
  rcases hbefore with rfl | hbefore
  · obtain ⟨hlevel, hdocument⟩ : r.level = 0 ∧ kind.isDocument := hplace
    obtain ⟨c, rfl⟩ : ∃ c, kind = .document c := by
      cases kind <;> first | exact ⟨_, rfl⟩ | cases hdocument
    exact {
      ne_nil := by simp
      known := by simp [hkind]
      root := by simp [hkind, hlevel]
      later := List.isChain_singleton r
      brackets := by simpa using hlength }
  · have hlast := List.getLast?_eq_getLast_of_ne_nil hbefore.ne_nil
    simp only [InPlace, hlast] at hplace
    exact {
      ne_nil := by simp
      known := fun s hs ↦ by
        rcases List.mem_append.mp hs with hs | hs
        · exact hbefore.known s hs
        · exact ⟨kind, List.mem_singleton.mp hs ▸ hkind⟩
      root := fun s hs ↦ hbefore.root s (by rwa [← List.head?_append_of_ne_nil _ hbefore.ne_nil])
      later := by
        refine List.isChain_append.mpr ⟨hbefore.later, List.isChain_singleton r, ?_⟩
        simpa [hlast] using hplace
      brackets := fun s hs ↦ by
        rcases List.mem_append.mp hs with hs | hs
        · exact hbefore.brackets s hs
        · exact List.mem_singleton.mp hs ▸ hlength }

theorem acceptable_or_offends (hbefore : Acceptable before) (rs : List Record) :
    Acceptable (before ++ rs) ∨ ∃ mid r after e, rs = mid ++ r :: after ∧
      Acceptable (before ++ mid) ∧ Offends (before ++ mid) r e := by
  induction rs generalizing before with
  | nil => exact .inl (by simpa using hbefore)
  | cons r rs ih =>
    cases hread : Builder.readNode (before.getLast?.map Record.level) 1 (before.length + 1) r with
    | error e =>
      exact .inr ⟨[], r, rs, e, rfl, by simpa using hbefore,
        by simpa using Builder.readNode_error_iff.mp hread⟩
    | ok node =>
      have hfollows := (Builder.readNode_ok_iff 1).mp ⟨node, hread⟩
      rcases ih (.inr (hfollows.wellFormed hbefore)) with hall | ⟨mid, s, after, e, rfl, hmid, hs⟩
      · exact .inl (by simpa using hall)
      · exact .inr ⟨r :: mid, s, after, e, rfl, by simpa using hmid, by simpa using hs⟩

theorem Acceptable.follows (h : Acceptable (before ++ r :: rs)) : Follows before r := by
  rcases h with h | h
  · simp at h
  · rw [List.append_cons] at h
    exact (h.of_append (by simp)).follows

theorem firstError_append (h : Acceptable (before ++ rs)) (after : List Record) :
    firstError before (rs ++ after) = firstError (before ++ rs) after := by
  induction rs generalizing before with
  | nil => rw [List.append_nil, List.nil_append]
  | cons r rs ih =>
    obtain ⟨node, hread⟩ := (Builder.readNode_ok_iff 1).mpr h.follows
    rw [List.cons_append, firstError, hread, List.append_cons before r rs]
    exact ih (by rwa [← List.append_cons])

theorem firstError_of_offends {e : Error} {after : List Record} (h : Acceptable before)
    (he : Offends before r e) : firstError [] (before ++ r :: after) = some e := by
  rw [firstError_append (by simpa using h), List.nil_append, firstError,
    Builder.readNode_of_offends he]

namespace Tree

theorem ofLines?_of_nil (h : recordsOf lines = []) : ofLines? lines = .error .emptyDump := by
  rcases ofLines?_eq lines with ⟨e, he, -⟩ | ⟨-, ⟨-, herror⟩ | ⟨hne, -⟩⟩
  · rw [h] at he
    cases he
  · exact herror
  · exact absurd h hne

theorem ofLines?_of_wellFormed (h : WellFormed (recordsOf lines)) :
    ∃ built, ofLines? lines = .ok built := by
  have hnone : firstError [] (recordsOf lines) = none := by
    have hall : Acceptable ([] ++ recordsOf lines) := .inr h
    rw [← List.append_nil (recordsOf lines), firstError_append hall]
    rfl
  rcases ofLines?_eq lines with ⟨e, he, -⟩ | ⟨-, ⟨hnil, -⟩ | ⟨-, b, ns, -, -, hok⟩⟩
  · cases he.symm.trans hnone
  · exact absurd hnil h.ne_nil
  · exact ⟨_, hok⟩

theorem ofLines?_of_offends {e : Error} {after : List Record}
    (h : recordsOf lines = before ++ r :: after) (hbefore : Acceptable before)
    (he : Offends before r e) : ofLines? lines = .error e := by
  have hsome : firstError [] (recordsOf lines) = some e := h ▸ firstError_of_offends hbefore he
  rcases ofLines?_eq lines with ⟨e', he', herror⟩ | ⟨hnone, -⟩
  · cases he'.symm.trans hsome
    exact herror
  · cases hnone.symm.trans hsome

/-- The exact condition on which a dump becomes a tree, and the error otherwise. -/
theorem ofLines?_accepts_iff (lines : List Text) :
    ((∃ built, ofLines? lines = .ok built) ↔ WellFormed (recordsOf lines)) ∧
      ∀ e, ofLines? lines = .error e ↔
        recordsOf lines = [] ∧ e = .emptyDump ∨
          ∃ before r after, recordsOf lines = before ++ r :: after ∧
            (before = [] ∨ WellFormed before) ∧ Offends before r e := by
  have herror : ∀ e, (recordsOf lines = [] ∧ e = .emptyDump ∨
      ∃ before r after, recordsOf lines = before ++ r :: after ∧
        (before = [] ∨ WellFormed before) ∧ Offends before r e) → ofLines? lines = .error e := by
    rintro e (⟨hnil, rfl⟩ | ⟨before, r, after, hrecords, hbefore, he⟩)
    · exact ofLines?_of_nil hnil
    · exact ofLines?_of_offends hrecords hbefore he
  rcases acceptable_or_offends (.inl rfl) (recordsOf lines) with
    (hnil | hall) | ⟨mid, r, after, e, hrecords, hmid, he⟩
  · rw [List.nil_append] at hnil
    have hempty := ofLines?_of_nil hnil
    refine ⟨⟨fun ⟨built, hok⟩ ↦ ?_, fun h ↦ absurd hnil h.ne_nil⟩, fun e ↦ ⟨fun he ↦ ?_, herror e⟩⟩
    · cases hok.symm.trans hempty
    · cases he.symm.trans hempty
      exact .inl ⟨hnil, rfl⟩
  · rw [List.nil_append] at hall
    obtain ⟨built, hok⟩ := ofLines?_of_wellFormed hall
    refine ⟨⟨fun _ ↦ hall, fun _ ↦ ⟨built, hok⟩⟩, fun e ↦ ⟨fun he ↦ ?_, herror e⟩⟩
    cases he.symm.trans hok
  · rw [List.nil_append] at hmid he
    have hrefused := ofLines?_of_offends hrecords hmid he
    refine ⟨⟨fun ⟨built, hok⟩ ↦ ?_, fun h ↦ ?_⟩, fun e' ↦ ⟨fun he' ↦ ?_, herror e'⟩⟩
    · cases hok.symm.trans hrefused
    · obtain ⟨built, hok⟩ := ofLines?_of_wellFormed h
      exact ⟨built, hok⟩
    · cases he'.symm.trans hrefused
      exact .inr ⟨mid, r, after, hrecords, hmid, he⟩

-- The line without a record counts for neither the id nor the level, and of the two faults of the
-- other one the place is named.
example : ofLines? ["PPI::Document".toList, [' '], "    PPI::Structure (".toList] =
    .error (.levelJump 2 0 2) := by
  decide +kernel

end Tree

end PpiDump
