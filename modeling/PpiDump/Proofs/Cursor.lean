import PpiDump.Cursor
import PpiDump.Proofs.Levels

namespace PpiDump

/-- The handles on the stack above a node at a level, nearest first. The root, which takes the place
of its own parent, lies at the bottom twice. -/
def Levels.stack (ls : Levels) : Nat → List Nat
  | 0 => []
  | l + 1 => ls.lastAt (l - 1) :: ls.stack l

theorem Levels.stack_snoc (ls : Levels) {l k : Nat} (h : k ≤ l) :
    Levels.stack (ls ++ [l]) k = ls.stack k := by
  induction k with
  | zero => rfl
  | succ k ih => rw [stack, stack, ih (by omega), lastAt_snoc, if_neg (by omega)]

namespace Cursor

open Levels

def after (ls : Levels) : Cursor :=
  match ls.getLast? with
  | none => {}
  | some l =>
    { last := some (ls.length - 1), level := some l, above := ls.stack l
      parent := some (ls.lastAt (l - 1)) }

variable {ls : Levels} {l m : Nat}

theorem after_level (ls : Levels) : (after ls).level = ls.getLast? := by
  cases h : ls.getLast? <;> simp [after, h]

theorem after_last (ls : Levels) :
    (after ls).last = if ls.length = 0 then none else some (ls.length - 1) := by
  cases h : ls.getLast? with
  | none => simp [after, List.getLast?_eq_none_iff.mp h]
  | some l =>
    have hne : ls ≠ [] := fun hn ↦ by simp [hn] at h
    simp [after, h, hne]

theorem rise_stack (ls : Levels) (last level : Option Nat) {n : Nat} (h : n ≤ l) :
    rise n ⟨last, level, ls.stack l, some (ls.lastAt (l - 1))⟩ =
      (⟨last, level, ls.stack (l - n), some (ls.lastAt (l - n - 1))⟩, true) := by
  induction n generalizing l with
  | zero => rfl
  | succ n ih =>
    cases l with
    | zero => omega
    | succ l =>
      have hl : l + 1 - (n + 1) = l - n := by omega
      simpa only [rise, stack, hl] using ih (by omega)

/-- Where the cursor stands when a node at level `l` is to be added. -/
def facing (ls : Levels) (l : Nat) : Cursor :=
  { last := (after ls).last, level := some l, above := ls.stack l
    parent := parent? (ls ++ [l]) ls.length }

theorem move_after (h : Stepped (ls ++ [l])) : (after ls).move l = (facing ls l, true) := by
  obtain ⟨-, h⟩ := stepped_snoc.mp h
  cases hm : ls.getLast? with
  | none =>
    obtain rfl := List.getLast?_eq_none_iff.mp hm
    obtain rfl : l = 0 := by simpa using h
    rfl
  | some m =>
    rw [hm] at h
    obtain ⟨hpos, hle⟩ : 0 < l ∧ l ≤ m + 1 := h
    obtain ⟨l, rfl⟩ := Nat.exists_eq_add_one_of_ne_zero hpos.ne'
    rw [facing, parent?_snoc_length]
    simp only [move, after, hm]
    split
    · obtain rfl : l = m := by omega
      obtain ⟨ls, rfl⟩ := List.getLast?_eq_some_iff.mp hm
      simp [stack, lastAt_snoc]
    · rw [rise_stack ls _ _ (by omega), Nat.sub_sub_self (by omega)]
      rfl

theorem advance_facing (h : Stepped (ls ++ [l])) :
    (facing ls l).advance ls.length = after (ls ++ [l]) := by
  obtain ⟨-, h⟩ := stepped_snoc.mp h
  have hparent : (parent? (ls ++ [l]) ls.length).getD ls.length = lastAt (ls ++ [l]) (l - 1) := by
    cases l with
    | zero => simp [parent?, lastAt_snoc]
    | succ l => simp [parent?_snoc_length, lastAt_snoc]
  simp [facing, advance, after, stack_snoc, hparent]

end Cursor

end PpiDump
