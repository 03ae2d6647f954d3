import PpiDump.Payload

namespace PpiDump

theorem TokenClass.rule_cases (c : TokenClass) :
    c.rule = .layout ∨ c.rule = .comment ∨ c.rule = .verbatim := by
  cases c <;> simp [rule]

namespace Payload

theorem decode_shape {kind : Kind} {content : Text} {id : Nat} {payload : Payload}
    (h : decode kind.rule content id = .ok payload) :
    (kind.isBracket ↔ ∃ opening closing, payload = .delimiters opening closing) ∧
      (kind.isToken ↔ ∃ content, payload = .text content) ∧
      (kind.isContainer ↔ payload = .empty) := by
  cases kind with
  | document c | statement c | node =>
    obtain rfl : Payload.empty = payload := by simpa [Kind.rule, decode] using h
    simp [Kind.isBracket, Kind.isToken, Kind.isContainer]
  | bracket c =>
    simp only [Kind.rule, decode] at h
    split at h
    · cases h
      simp [Kind.isBracket, Kind.isToken, Kind.isContainer]
    · cases h
  | token c =>
    obtain ⟨t, rfl⟩ : ∃ t, payload = .text t := by
      rcases c.rule_cases with hc | hc | hc <;> simp only [Kind.rule, hc, decode] at h <;>
        cases h <;> exact ⟨_, rfl⟩
    simp [Kind.isBracket, Kind.isToken, Kind.isContainer]

theorem decode_error_iff {kind : Kind} {content : Text} {id : Nat} {e : Error} :
    decode kind.rule content id = .error e ↔
      kind.isBracket ∧ content.length ≠ 7 ∧ e = .bracketContent id content := by
  cases kind with
  | document c | statement c | node => simp [Kind.rule, decode, Kind.isBracket]
  | token c =>
    rcases c.rule_cases with hc | hc | hc <;> simp [Kind.rule, hc, decode, Kind.isBracket]
  | bracket c =>
    simp only [Kind.rule, decode, Kind.isBracket, true_and]
    split
    · simp
    · rename_i hcontent
      have hlength : content.length ≠ 7 := by
        intro h
        match content, h with
        | [c₁, c₂, c₃, c₄, c₅, c₆, c₇], _ => exact hcontent _ _ _ _ _ _ _ rfl
      simp [hlength, eq_comm]

theorem decode_length {kind : Kind} {content : Text} {id : Nat} {payload : Payload}
    (h : decode kind.rule content id = .ok payload) (hbracket : kind.isBracket) :
    content.length = 7 := by
  refine Decidable.byContradiction fun hlength ↦ ?_
  have herror : decode kind.rule content id = .error (.bracketContent id content) :=
    decode_error_iff.mpr ⟨hbracket, hlength, rfl⟩
  cases h.symm.trans herror

theorem decode_id {rule : ContentRule} {content : Text} {id : Nat} {payload : Payload}
    (h : decode rule content id = .ok payload) (id' : Nat) :
    decode rule content id' = .ok payload := by
  cases rule with
  | delimiters =>
    simp only [decode] at h ⊢
    split at h
    · exact h
    · cases h
  | nothing | layout | comment | verbatim => exact h

end Payload

end PpiDump
