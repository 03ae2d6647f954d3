import Mathlib.Data.List.Chain
import Mathlib.Data.List.Induction
import Mathlib.Order.Bounds.Basic

namespace PpiDump

/-- The levels of the nodes of a dump, in order. They decide the whole shape of its tree. -/
abbrev Levels := List Nat

namespace Levels

/-- The root comes first and alone at its level, and no node lies more than one level below the node
before it. -/
def Stepped (ls : Levels) : Prop :=
  (∀ l ∈ ls.head?, l = 0) ∧ ls.IsChain fun a b ↦ 0 < b ∧ b ≤ a + 1

/-- The last place of a level; zero if the level does not occur. -/
def lastAt (ls : Levels) (l : Nat) : Nat := ls.length - 1 - ls.reverse.idxOf l

def parent? (ls : Levels) (i : Nat) : Option Nat :=
  match ls[i]? with
  | some (l + 1) => some (lastAt (ls.take i) l)
  | _ => none

def children (ls : Levels) (p : Nat) : List Nat :=
  (List.range ls.length).filter fun i ↦ ls.parent? i = some p

/-- The children of the parent of `i`, so `i` is one of them. The root has none. -/
def siblings (ls : Levels) (i : Nat) : List Nat := ((ls.parent? i).map ls.children).getD []

def prevSibling? (ls : Levels) (i : Nat) : Option Nat :=
  ((ls.siblings i).filter (· < i)).getLast?

def nextSibling? (ls : Levels) (i : Nat) : Option Nat := (ls.siblings i).find? (i < ·)

variable {ls : Levels} {l m i j p : Nat}

theorem lastAt_snoc (ls : Levels) (l m : Nat) :
    lastAt (ls ++ [l]) m = if l = m then ls.length else lastAt ls m := by
  simp only [lastAt, List.reverse_append, List.reverse_cons, List.reverse_nil, List.nil_append,
    List.singleton_append, List.length_append, List.length_singleton, List.idxOf_cons,
    cond_eq_ite, beq_iff_eq]
  split <;> omega

theorem lastAt_of_mem (h : l ∈ ls) :
    ls[lastAt ls l]? = some l ∧ ∀ k, lastAt ls l < k → ls[k]? ≠ some l := by
  induction ls using List.reverseRecOn with
  | nil => simp at h
  | append_singleton ls m ih =>
    rw [lastAt_snoc]
    by_cases hm : m = l
    · subst hm
      rw [if_pos rfl]
      refine ⟨List.getElem?_concat_length, fun k hk ↦ ?_⟩
      rw [List.getElem?_eq_none (by simp; omega)]
      simp
    · obtain ⟨hl, hlast⟩ := ih (by simpa [Ne.symm hm] using h)
      have hlt : lastAt ls l < ls.length := (List.getElem?_eq_some_iff.mp hl).1
      rw [if_neg hm]
      refine ⟨by rwa [List.getElem?_append_left hlt], fun k hk ↦ ?_⟩
      rcases Nat.lt_trichotomy k ls.length with hkn | rfl | hkn
      · rw [List.getElem?_append_left hkn]
        exact hlast k hk
      · simpa using hm
      · rw [List.getElem?_eq_none (by simp; omega)]
        simp

theorem parent?_snoc (hi : i < ls.length) : parent? (ls ++ [l]) i = parent? ls i := by
  simp only [parent?, List.getElem?_append_left hi, List.take_append_of_le_length hi.le]

theorem parent?_snoc_length (ls : Levels) (l : Nat) :
    parent? (ls ++ [l + 1]) ls.length = some (lastAt ls l) := by
  simp [parent?]

theorem children_snoc (ls : Levels) (l : Nat) (p : Nat) :
    children (ls ++ [l]) p =
      children ls p ++ if parent? (ls ++ [l]) ls.length = some p then [ls.length] else [] := by
  have h : (List.range ls.length).filter (fun i ↦ parent? (ls ++ [l]) i = some p) =
      children ls p := by
    refine List.filter_congr fun i hi ↦ ?_
    rw [parent?_snoc (List.mem_range.mp hi)]
  rw [children, List.length_append, List.length_singleton, List.range_succ, List.filter_append, h,
    List.filter_singleton]
  simp

theorem mem_children : i ∈ ls.children p ↔ i < ls.length ∧ ls.parent? i = some p := by
  simp [children]

theorem children_pairwise (ls : Levels) (p : Nat) : (ls.children p).Pairwise (· < ·) :=
  List.pairwise_lt_range.filter _

theorem mem_siblings_iff : j ∈ ls.siblings i ↔
    j < ls.length ∧ ∃ p, ls.parent? i = some p ∧ ls.parent? j = some p := by
  cases h : ls.parent? i <;> simp [siblings, h, mem_children]

theorem prevSibling?_mem (h : ls.prevSibling? i = some j) : j ∈ ls.siblings i :=
  (List.mem_filter.mp (List.mem_of_getLast? h)).1

theorem nextSibling?_mem (h : ls.nextSibling? i = some j) : j ∈ ls.siblings i :=
  List.mem_of_find?_eq_some h

theorem siblings_eq (h : ls.parent? i = some p) : ls.siblings i = ls.children p := by
  simp [siblings, h]

theorem prevSibling?_snoc (hi : i < ls.length) :
    prevSibling? (ls ++ [l]) i = prevSibling? ls i := by
  have h : (siblings (ls ++ [l]) i).filter (· < i) = (siblings ls i).filter (· < i) := by
    rw [siblings, siblings, parent?_snoc hi]
    cases parent? ls i with
    | none => rfl
    | some p =>
      simp only [Option.map_some, Option.getD_some, children_snoc, List.filter_append]
      split <;> simp [hi.le]
  rw [prevSibling?, prevSibling?, h]

theorem prevSibling?_snoc_length (h : parent? (ls ++ [l]) ls.length = some p) :
    prevSibling? (ls ++ [l]) ls.length = (children ls p).getLast? := by
  have hall : ∀ i ∈ children ls p, decide (i < ls.length) = true := fun i hi ↦
    decide_eq_true (mem_children.mp hi).1
  simp [prevSibling?, siblings, h, children_snoc, List.filter_eq_self.mpr hall]

theorem find?_lt_eq {is : List Nat} (hs : is.Pairwise (· < ·)) {k : Nat} (hk : is[k]? = some i) :
    is.find? (i < ·) = is[k + 1]? := by
  induction is generalizing k with
  | nil => simp at hk
  | cons a is ih =>
    obtain ⟨ha, hs⟩ := List.pairwise_cons.mp hs
    cases k with
    | zero =>
      obtain rfl : a = i := by simpa using hk
      cases is with
      | nil => simp
      | cons b is => simp [ha b]
    | succ k =>
      have hi : a < i := ha i (List.mem_of_getElem? hk)
      simpa [Nat.not_lt.mpr hi.le] using ih hs hk

theorem getLast?_filter_lt_eq {is : List Nat} (hs : is.Pairwise (· < ·)) {k : Nat}
    (hk : is[k]? = some i) :
    (is.filter (· < i)).getLast? = if k = 0 then none else is[k - 1]? := by
  induction is generalizing k with
  | nil => simp at hk
  | cons a is ih =>
    obtain ⟨ha, hs⟩ := List.pairwise_cons.mp hs
    cases k with
    | zero =>
      obtain rfl : a = i := by simpa using hk
      simpa using fun b hb ↦ (ha b hb).le
    | succ k =>
      have hi : a < i := ha i (List.mem_of_getElem? hk)
      have h := ih hs (k := k) (by simpa using hk)
      rw [List.filter_cons_of_pos (by simpa using hi), List.getLast?_cons, h]
      cases k with
      | zero => simp
      | succ k =>
        have hlt : k < is.length := by
          have := (List.getElem?_eq_some_iff.mp hk).1
          simp at this
          omega
        simp [List.getElem?_eq_getElem hlt]

theorem nextSibling?_snoc (hi : i < ls.length) (hp : parent? (ls ++ [l]) ls.length = some p) :
    nextSibling? (ls ++ [l]) i =
      if (children ls p).getLast? = some i then some ls.length else nextSibling? ls i := by
  have hmem : (children ls p).getLast? = some i → parent? ls i = some p := fun h ↦
    (mem_children.mp (List.mem_of_getLast? h)).2
  rw [nextSibling?, nextSibling?, siblings, siblings, parent?_snoc hi]
  cases hq : parent? ls i with
  | none => simp_all
  | some q =>
    simp only [Option.map_some, Option.getD_some, children_snoc, hp, Option.some.injEq]
    by_cases hpq : p = q
    · subst hpq
      obtain ⟨k, hk⟩ := List.mem_iff_getElem?.mp (mem_children.mpr ⟨hi, hq⟩)
      have hlt := (List.getElem?_eq_some_iff.mp hk).1
      rw [if_pos rfl, List.find?_append, find?_lt_eq (children_pairwise ls p) hk,
        List.getLast?_eq_getElem?, ← hk]
      rcases Nat.lt_or_ge (k + 1) (children ls p).length with h | h
      · have hne : (children ls p)[(children ls p).length - 1]? ≠ (children ls p)[k]? := by
          rw [List.getElem?_eq_getElem (by omega), List.getElem?_eq_getElem (by omega)]
          have := List.pairwise_iff_getElem.mp (children_pairwise ls p) k
            ((children ls p).length - 1) (by omega) (by omega) (by omega)
          simpa using this.ne'
        rw [if_neg hne, List.getElem?_eq_getElem h]
        rfl
      · have hlast : (children ls p).length - 1 = k := by omega
        rw [hlast, if_pos rfl, List.getElem?_eq_none h]
        simp [hi]
    · have hne : (children ls p).getLast? ≠ some i := fun h ↦ by
        simp_all
      rw [if_neg hne, if_neg hpq, List.append_nil]

theorem nextSibling?_snoc_length (ls : Levels) (l : Nat) :
    nextSibling? (ls ++ [l]) ls.length = none := by
  rw [nextSibling?, List.find?_eq_none]
  intro j hj
  have hlt : j < (ls ++ [l]).length := (mem_siblings_iff.mp hj).1
  rw [List.length_append, List.length_singleton] at hlt
  simpa using Nat.le_of_lt_succ hlt

theorem stepped_nil : Stepped [] := by simp [Stepped]

theorem stepped_snoc : Stepped (ls ++ [l]) ↔
    Stepped ls ∧ match ls.getLast? with
      | none => l = 0
      | some m => 0 < l ∧ l ≤ m + 1 := by
  cases h : ls.getLast? with
  | none =>
    obtain rfl := List.getLast?_eq_none_iff.mp h
    simp [Stepped]
  | some m =>
    have hne : ls ≠ [] := fun hn ↦ by simp [hn] at h
    simp only [Stepped, List.isChain_append, List.head?_append_of_ne_nil _ hne, h,
      List.head?_cons, Option.mem_some_iff, List.IsChain.singleton, true_and, forall_eq']
    tauto

theorem Stepped.take (h : Stepped ls) (n : Nat) : Stepped (ls.take n) := by
  refine ⟨fun l hl ↦ h.1 l ?_, h.2.take n⟩
  cases ls <;> cases n <;> simp_all

theorem Stepped.mem (h : Stepped ls) (hm : ls.getLast? = some m) (hl : l ≤ m) : l ∈ ls := by
  induction ls using List.reverseRecOn generalizing m with
  | nil => simp at hm
  | append_singleton ls n ih =>
    obtain rfl : n = m := by simpa using hm
    obtain ⟨hs, hn⟩ := stepped_snoc.mp h
    cases hk : ls.getLast? with
    | none => simp_all
    | some k =>
      rw [hk] at hn
      rcases Nat.lt_or_ge l n with hln | hln
      · exact List.mem_append_left _ (ih hs hk (by omega))
      · simp [Nat.le_antisymm hl hln]

theorem Stepped.before (h : Stepped ls) (hi : ls[i + 1]? = some l) :
    ∃ m, (ls.take (i + 1)).getLast? = some m ∧ 0 < l ∧ l ≤ m + 1 := by
  obtain ⟨hlt, rfl⟩ := List.getElem?_eq_some_iff.mp hi
  have hs : Stepped (ls.take (i + 1) ++ [ls[i + 1]]) := by
    rw [List.take_append_getElem]
    exact h.take _
  cases hm : (ls.take (i + 1)).getLast? with
  | none => simp [List.getLast?_eq_none_iff] at hm; simp [hm] at hlt
  | some m =>
    have := (stepped_snoc.mp hs).2
    rw [hm] at this
    exact ⟨m, rfl, this⟩

theorem Stepped.step (h : Stepped ls) (hi : ls[i]? = some m) (hi' : ls[i + 1]? = some l) :
    0 < l ∧ l ≤ m + 1 := by
  obtain ⟨hlt, rfl⟩ := List.getElem?_eq_some_iff.mp hi'
  obtain ⟨-, rfl⟩ := List.getElem?_eq_some_iff.mp hi
  exact List.isChain_iff_getElem.mp h.2 i hlt

theorem Stepped.level_eq_zero_iff (h : Stepped ls) (hi : ls[i]? = some l) : l = 0 ↔ i = 0 := by
  cases i with
  | zero => simpa using h.1 l (by simpa [List.head?_eq_getElem?] using hi)
  | succ i =>
    obtain ⟨-, -, hl, -⟩ := h.before hi
    simp
    omega

theorem Stepped.parent?_eq_none_iff (h : Stepped ls) (hi : ls[i]? = some l) :
    ls.parent? i = none ↔ i = 0 := by
  rw [← h.level_eq_zero_iff hi]
  cases l <;> simp [parent?, hi]

theorem Stepped.parent?_eq_some_iff (h : Stepped ls) (hi : ls[i]? = some l) :
    ls.parent? i = some p ↔ IsGreatest {j | j < i ∧ ∃ m, ls[j]? = some m ∧ m + 1 = l} p := by
  cases l with
  | zero =>
    simp only [parent?, hi]
    exact iff_of_false (by simp) fun hp ↦ by simpa using hp.1
  | succ l =>
    cases i with
    | zero => simpa using (h.level_eq_zero_iff hi).mpr rfl
    | succ i =>
      obtain ⟨m, hm, -, hl⟩ := h.before hi
      obtain ⟨hp, hlast⟩ := lastAt_of_mem ((h.take _).mem hm (Nat.le_of_succ_le_succ hl))
      have hg : IsGreatest {j | j < i + 1 ∧ ∃ m, ls[j]? = some m ∧ m + 1 = l + 1}
          (lastAt (ls.take (i + 1)) l) := by
        constructor
        · rw [List.getElem?_take] at hp
          split at hp
          · exact ⟨‹_›, l, hp, rfl⟩
          · simp at hp
        · rintro j ⟨hj, k, hk, hkl⟩
          by_contra hlt
          refine hlast j (Nat.lt_of_not_le hlt) ?_
          rw [List.getElem?_take_of_lt hj, hk, Nat.succ.inj hkl]
      simp only [parent?, hi, Option.some.injEq]
      exact ⟨fun e ↦ e ▸ hg, hg.unique⟩

theorem lt_length_of_parent? (hp : ls.parent? i = some p) : i < ls.length := by
  by_contra hi
  rw [parent?, List.getElem?_eq_none (Nat.le_of_not_lt hi)] at hp
  cases hp

theorem Stepped.parent?_lt (h : Stepped ls) (hp : ls.parent? i = some p) : p < i := by
  have hi := List.getElem?_eq_getElem (lt_length_of_parent? hp)
  exact ((h.parent?_eq_some_iff hi).mp hp).1.1

end Levels

end PpiDump
