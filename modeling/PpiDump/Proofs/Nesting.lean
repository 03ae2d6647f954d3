import Mathlib.Logic.Relation
import PpiDump.Proofs.Forest

namespace PpiDump.Levels

/-- Node `b` is node `a` or comes in the block of deeper nodes behind it. -/
def Encloses (ls : Levels) (a b : Nat) : Prop :=
  a ≤ b ∧ ∀ k l m, a < k → k ≤ b → ls[a]? = some l → ls[k]? = some m → l < m

variable {ls : Levels} {a b p l m : Nat}

theorem encloses_self (ls : Levels) (a : Nat) : ls.Encloses a a :=
  ⟨le_rfl, fun _ _ _ hk hk' ↦ absurd hk (Nat.not_lt.mpr hk')⟩

theorem Stepped.parent?_level (h : Stepped ls) (hb : ls[b]? = some l) (hp : ls.parent? b = some p) :
    ∃ m, ls[p]? = some m ∧ m + 1 = l :=
  ((h.parent?_eq_some_iff hb).mp hp).1.2

theorem Stepped.encloses_parent? (h : Stepped ls) (hp : ls.parent? b = some p) :
    ls.Encloses p b := by
  refine ⟨(h.parent?_lt hp).le, fun k l m hk hk' hl hm ↦ ?_⟩
  by_contra hml
  exact h.parent?_ne_of_le hl hm (Nat.not_lt.mp hml) hk hk' hp

theorem Encloses.trans (hap : ls.Encloses a p) (hpb : ls.Encloses p b) (hp : p < ls.length) :
    ls.Encloses a b := by
  refine ⟨hap.1.trans hpb.1, fun k l m hk hk' hl hm ↦ ?_⟩
  rcases Nat.lt_or_ge p k with hpk | hkp
  · have hlevel := List.getElem?_eq_getElem hp
    have hdeeper := hpb.2 k _ m hpk hk' hlevel hm
    rcases hap.1.eq_or_lt with rfl | hlt
    · rwa [Option.some.inj (hl.symm.trans hlevel)]
    · exact (hap.2 p l _ hlt le_rfl hl hlevel).trans hdeeper
  · exact hap.2 k l m hk hkp hl hm

theorem Stepped.encloses_iff (h : Stepped ls) (hp : ls.parent? b = some p) :
    ls.Encloses a b ↔ a = b ∨ ls.Encloses a p := by
  have hpb := h.parent?_lt hp
  have hb := lt_length_of_parent? hp
  have hlevel := List.getElem?_eq_getElem hb
  constructor
  · intro hab
    rcases hab.1.eq_or_lt with rfl | hlt
    · exact .inl rfl
    · -- Between `a` and `b` the level of the parent is passed, for the last time at the parent.
      have ha := List.getElem?_eq_getElem (hlt.trans hb)
      have hdeeper := hab.2 b _ _ hlt le_rfl ha hlevel
      obtain ⟨m, hm, hml⟩ := h.parent?_level hlevel hp
      obtain ⟨k, hak, hkb, hk⟩ := h.exists_between (l := m) ha (by omega) hlevel (by omega) hlt
      have hkp : k ≤ p := ((h.parent?_eq_some_iff hlevel).mp hp).2 ⟨hkb, m, hk, hml⟩
      exact .inr ⟨hak.trans hkp, fun k l m hk hk' ↦ hab.2 k l m hk (hk'.trans hpb.le)⟩
  · rintro (rfl | hap)
    · exact encloses_self ls a
    · exact hap.trans (h.encloses_parent? hp) (hpb.trans hb)

theorem encloses_zero : ls.Encloses a 0 ↔ a = 0 :=
  ⟨fun h ↦ Nat.le_zero.mp h.1, fun h ↦ h ▸ encloses_self ls 0⟩

/-- What is reached from a node through children lies in its block, and all of that is reached. -/
theorem Stepped.reaches_iff (h : Stepped ls) (hb : b < ls.length) :
    Relation.ReflTransGen (fun p c ↦ ls.parent? c = some p) a b ↔ ls.Encloses a b := by
  induction b using Nat.strongRecOn with
  | ind b ih =>
    rw [Relation.ReflTransGen.cases_tail_iff]
    cases hp : ls.parent? b with
    | none =>
      have hzero := (h.parent?_eq_none_iff (List.getElem?_eq_getElem hb)).mp hp
      subst hzero
      simp [encloses_zero, eq_comm]
    | some p =>
      have hpb := h.parent?_lt hp
      rw [h.encloses_iff hp, ← ih p hpb (hpb.trans hb)]
      simp [eq_comm]

end PpiDump.Levels
