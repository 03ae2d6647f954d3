import Mathlib.Data.List.TakeWhile
import PpiDump.Proofs.Linked
import PpiDump.Proofs.Unfolding

namespace PpiDump

variable {α : Type} {p q : α → Bool}

theorem takeWhile_of_imp (h : ∀ a, p a → q a) (as : List α) :
    as.takeWhile q = as.takeWhile p ++ (as.dropWhile p).takeWhile q := by
  induction as with
  | nil => rfl
  | cons a as ih =>
    by_cases ha : p a
    · rw [List.takeWhile_cons_of_pos ha, List.takeWhile_cons_of_pos (h a ha),
        List.dropWhile_cons_of_pos ha, ih, List.cons_append]
    · rw [List.takeWhile_cons_of_neg ha, List.dropWhile_cons_of_neg ha, List.nil_append]

theorem dropWhile_of_imp (h : ∀ a, p a → q a) (as : List α) :
    as.dropWhile q = (as.dropWhile p).dropWhile q := by
  induction as with
  | nil => rfl
  | cons a as ih =>
    by_cases ha : p a
    · rw [List.dropWhile_cons_of_pos ha, List.dropWhile_cons_of_pos (h a ha), ih]
    · rw [List.dropWhile_cons_of_neg ha]

/-- Branches with the levels of their nodes. -/
abbrev Forest := List (Nat × Branch)

namespace Forest

def branches (f : Forest) : List Branch := f.map Prod.snd

def handles (f : Forest) : List Handle := f.branches.map Branch.handle

def below (l : Nat) (f : Forest) : Forest := f.takeWhile (l < ·.1)

def beside (l : Nat) (f : Forest) : Forest := f.dropWhile (l < ·.1)

/-- Puts a node ahead of a forest and what lies below it at the start of the forest into it. -/
def plant (i l : Nat) (f : Forest) : Forest := (l, .node i (f.below l).branches) :: f.beside l

def ofLevels : Nat → Levels → Forest
  | _, [] => []
  | i, l :: ls => plant i l (ofLevels (i + 1) ls)

variable {f : Forest} {x : Nat × Branch} {i k l m : Nat} {ls : Levels}

theorem below_append_beside (l : Nat) (f : Forest) : f.below l ++ f.beside l = f :=
  List.takeWhile_append_dropWhile

theorem below_split (h : l < m) (f : Forest) : f.below l = f.below m ++ (f.beside m).below l :=
  takeWhile_of_imp (fun _ ha ↦ by simp at ha ⊢; omega) f

theorem beside_split (h : l < m) (f : Forest) : f.beside l = (f.beside m).beside l :=
  dropWhile_of_imp (fun _ ha ↦ by simp at ha ⊢; omega) f

theorem below_plant (h : l < m) : (plant i m f).below l =
    (m, .node i (f.below m).branches) :: (f.beside m).below l :=
  List.takeWhile_cons_of_pos (by simpa using h)

theorem below_plant_eq_nil (h : m ≤ l) : (plant i m f).below l = [] :=
  List.takeWhile_cons_of_neg (by simpa using h)

theorem beside_plant (h : l < m) : (plant i m f).beside l = (f.beside m).beside l :=
  List.dropWhile_cons_of_pos (by simpa using h)

theorem beside_plant_eq_self (h : m ≤ l) : (plant i m f).beside l = plant i m f :=
  List.dropWhile_cons_of_neg (by simpa using h)

theorem mem_below (h : x ∈ f.below l) : x ∈ f ∧ l < x.1 := by
  refine ⟨(List.takeWhile_sublist _).mem h, ?_⟩
  simpa using List.mem_takeWhile_imp h

theorem beside_le (hf : f.Pairwise fun x y ↦ y.1 ≤ x.1) (hx : x ∈ f.beside l) : x.1 ≤ l := by
  induction f with
  | nil => simp [beside] at hx
  | cons y f ih =>
    obtain ⟨hy, hf⟩ := List.pairwise_cons.mp hf
    by_cases hl : l < y.1
    · rw [beside, List.dropWhile_cons_of_pos (by simpa using hl)] at hx
      exact ih hf hx
    · rw [beside, List.dropWhile_cons_of_neg (by simpa using hl)] at hx
      rcases List.mem_cons.mp hx with rfl | hx
      · exact Nat.not_lt.mp hl
      · exact (hy x hx).trans (Nat.not_lt.mp hl)

theorem ofLevels_pairwise (i : Nat) (ls : Levels) :
    (ofLevels i ls).Pairwise fun x y ↦ y.1 ≤ x.1 := by
  induction ls generalizing i with
  | nil => exact .nil
  | cons l ls ih =>
    have hf := ih (i + 1)
    exact List.pairwise_cons.mpr
      ⟨fun y hy ↦ beside_le hf hy, hf.sublist (List.dropWhile_sublist _)⟩

theorem mem_ofLevels (hx : x ∈ ofLevels i ls) : x.1 ∈ ls := by
  induction ls generalizing i with
  | nil => simp [ofLevels] at hx
  | cons l ls ih =>
    rcases List.mem_cons.mp hx with rfl | hx
    · exact List.mem_cons_self
    · exact List.mem_cons_of_mem _ (ih ((List.dropWhile_sublist _).mem hx))

theorem preorderAll_append (bs bs' : List Branch) :
    Branch.preorderAll (bs ++ bs') = Branch.preorderAll bs ++ Branch.preorderAll bs' := by
  induction bs with
  | nil => rfl
  | cons b bs ih => simp [Branch.preorderAll, ih]

theorem preorderAll_ofLevels (i : Nat) (ls : Levels) :
    Branch.preorderAll (ofLevels i ls).branches = List.range' i ls.length := by
  induction ls generalizing i with
  | nil => rfl
  | cons l ls ih =>
    have hsplit : (ofLevels (i + 1) ls).branches =
        ((ofLevels (i + 1) ls).below l).branches ++ ((ofLevels (i + 1) ls).beside l).branches := by
      rw [branches, branches, branches, ← List.map_append, below_append_beside]
    have hih := ih (i + 1)
    rw [hsplit, preorderAll_append] at hih
    simp only [ofLevels, plant, branches, List.map_cons, Branch.preorderAll, Branch.preorder,
      List.cons_append, List.length_cons, List.range'_succ] at hih ⊢
    rw [hih]

/-- The nodes right below one at level `l`, found in the levels behind it, the first of which is
that of node `k`. -/
def nextBelow (l : Nat) : Nat → Levels → List Handle
  | _, [] => []
  | k, m :: ls =>
    if m ≤ l then [] else if m = l + 1 then k :: nextBelow l (k + 1) ls else nextBelow l (k + 1) ls

theorem filter_below_eq (l k : Nat) (ls : Levels) :
    handles (((ofLevels k ls).below l).filter (·.1 = l + 1)) = nextBelow l k ls := by
  induction ls generalizing k with
  | nil => rfl
  | cons m ls ih =>
    rw [ofLevels, nextBelow]
    by_cases hml : m ≤ l
    · rw [below_plant_eq_nil hml, if_pos hml]
      rfl
    · have hlm : l < m := Nat.lt_of_not_le hml
      have hskip : ((ofLevels (k + 1) ls).below m).filter (·.1 = l + 1) = [] := by
        refine List.filter_eq_nil_iff.mpr fun x hx ↦ ?_
        have := (mem_below hx).2
        simp
        omega
      have hih := ih (k + 1)
      rw [below_split hlm, List.filter_append, hskip, List.nil_append] at hih
      rw [below_plant hlm, if_neg hml, ← hih]
      by_cases hm : m = l + 1
      · rw [if_pos hm, List.filter_cons_of_pos (by simpa using hm)]
        rfl
      · rw [if_neg hm, List.filter_cons_of_neg (by simpa using hm)]

end Forest

namespace Levels

open Forest

variable {ls : Levels} {i j k l m n : Nat}

theorem Stepped.exists_between (h : Stepped ls) (hk : ls[k]? = some m) (hm : m ≤ l)
    (hj : ls[j]? = some n) (hn : l < n) (hkj : k < j) :
    ∃ k', k ≤ k' ∧ k' < j ∧ ls[k']? = some l := by
  induction j generalizing n with
  | zero => omega
  | succ j ih =>
    have hlt : j < ls.length := Nat.lt_of_succ_lt (List.getElem?_eq_some_iff.mp hj).1
    have hq := List.getElem?_eq_getElem hlt
    have hstep := (h.step hq hj).2
    by_cases hlq : l < ls[j]
    · have hne : k ≠ j := by
        rintro rfl
        have := Option.some.inj (hk.symm.trans hq)
        omega
      obtain ⟨k', hkk', hk'j, hk'⟩ := ih hq hlq (by omega)
      exact ⟨k', hkk', by omega, hk'⟩
    · have hl : ls[j] = l := by omega
      exact ⟨j, by omega, by omega, hl ▸ hq⟩

theorem Stepped.parent?_ne_of_le (h : Stepped ls) (hi : ls[i]? = some l) (hk : ls[k]? = some m)
    (hm : m ≤ l) (hik : i < k) (hkj : k ≤ j) : ls.parent? j ≠ some i := by
  intro hp
  have hjlevel := List.getElem?_eq_getElem (lt_length_of_parent? hp)
  obtain ⟨⟨-, l', hl', hlj⟩, hlast⟩ := (h.parent?_eq_some_iff hjlevel).mp hp
  obtain rfl : l = l' := Option.some.inj (hi.symm.trans hl')
  have hne : k ≠ j := by
    rintro rfl
    have := Option.some.inj (hk.symm.trans hjlevel)
    omega
  obtain ⟨k', hkk', hk'j, hk'⟩ := h.exists_between hk hm hjlevel (by omega) (by omega)
  have := hlast ⟨hk'j, l, hk', hlj⟩
  omega

theorem Stepped.parent?_eq_some_iff_of_below (h : Stepped ls) (hi : ls[i]? = some l)
    (hk : ls[k]? = some m) (hik : i < k)
    (hbelow : ∀ j n, i < j → j < k → ls[j]? = some n → l < n) :
    ls.parent? k = some i ↔ m = l + 1 := by
  rw [h.parent?_eq_some_iff hk]
  constructor
  · rintro ⟨⟨-, l', hl', hlm⟩, -⟩
    rw [← hlm, Option.some.inj (hi.symm.trans hl')]
  · intro heq
    refine ⟨⟨hik, l, hi, heq.symm⟩, ?_⟩
    rintro j ⟨hj, n, hn, hnm⟩
    by_contra hij
    have := hbelow j n (Nat.lt_of_not_le hij) hj hn
    omega

theorem Stepped.filter_parent?_eq (h : Stepped ls) (hi : ls[i]? = some l) (hik : i < k)
    (hbelow : ∀ j m, i < j → j < k → ls[j]? = some m → l < m) :
    (List.range' k (ls.length - k)).filter (fun j ↦ ls.parent? j = some i) =
      nextBelow l k (ls.drop k) := by
  generalize hn : ls.length - k = n
  induction n generalizing k with
  | zero => simp [List.drop_eq_nil_of_le (Nat.le_of_sub_eq_zero hn), nextBelow]
  | succ n ih =>
    have hk : k < ls.length := by omega
    have hlevel := List.getElem?_eq_getElem hk
    rw [List.drop_eq_getElem_cons hk, nextBelow, List.range'_succ]
    by_cases hml : ls[k] ≤ l
    · rw [if_pos hml]
      refine List.filter_eq_nil_iff.mpr fun j hj hp ↦ ?_
      rw [← List.range'_succ, List.mem_range'_1] at hj
      exact h.parent?_ne_of_le hi hlevel hml hik hj.1 (of_decide_eq_true hp)
    · have hbelow' : ∀ j m, i < j → j < k + 1 → ls[j]? = some m → l < m := by
        intro j m hij hjk hm
        rcases Nat.lt_succ_iff_lt_or_eq.mp hjk with hjk | rfl
        · exact hbelow j m hij hjk hm
        · have := Option.some.inj (hlevel.symm.trans hm)
          omega
      rw [if_neg hml, List.filter_cons, ih (Nat.lt_succ_of_lt hik) hbelow' (by omega)]
      simp only [h.parent?_eq_some_iff_of_below hi hlevel hik hbelow, decide_eq_true_eq]

theorem Stepped.children_eq (h : Stepped ls) (hi : ls[i]? = some l) :
    ls.children i = ((ofLevels (i + 1) (ls.drop (i + 1))).below l).handles := by
  have hlt := (List.getElem?_eq_some_iff.mp hi).1
  have hsplit : List.range ls.length =
      List.range' 0 (i + 1) ++ List.range' (i + 1) (ls.length - (i + 1)) := by
    have hlen : ls.length = i + 1 + (ls.length - (i + 1)) := by omega
    rw [List.range_eq_range', hlen, ← List.range'_append_1, ← hlen, Nat.zero_add]
  have hbefore : (List.range' 0 (i + 1)).filter (fun j ↦ ls.parent? j = some i) = [] := by
    refine List.filter_eq_nil_iff.mpr fun j hj hp ↦ ?_
    have := h.parent?_lt (of_decide_eq_true hp)
    have := (List.mem_range'_1.mp hj).2
    omega
  have hlevel :
      ∀ x ∈ (ofLevels (i + 1) (ls.drop (i + 1))).below l, decide (x.1 = l + 1) = true := by
    intro x hx
    obtain ⟨hx, hlx⟩ := mem_below hx
    have hle : x.1 ≤ l + 1 := by
      have hpair := ofLevels_pairwise (i + 1) (ls.drop (i + 1))
      cases hd : ls.drop (i + 1) with
      | nil => simp [hd, ofLevels] at hx
      | cons m ms =>
        have hm : ls[i + 1]? = some m := by
          have := congrArg (·[0]?) hd
          simpa using this
        rw [hd, ofLevels] at hx hpair
        have hml := (h.step hi hm).2
        rcases List.mem_cons.mp hx with rfl | hx
        · exact hml
        · exact ((List.pairwise_cons.mp hpair).1 x hx).trans hml
    exact decide_eq_true (by omega)
  rw [children, hsplit, List.filter_append, hbefore, List.nil_append,
    h.filter_parent?_eq hi (Nat.lt_succ_self i) (fun j m hj hj' _ ↦ by omega),
    ← filter_below_eq, List.filter_eq_self.mpr hlevel]

end Levels

namespace Tree

open Levels Forest

variable {ns : List Node} {x : Nat × Branch}

theorem linked_unfolds (hs : Stepped (levelsOf ns)) (k : Nat) :
    ∀ x ∈ ofLevels k ((levelsOf ns).drop k), Branch.Unfolds (linked ns) x.2 := by
  induction hd : (levelsOf ns).drop k generalizing k with
  | nil => simp [ofLevels]
  | cons l ls ih =>
    have hl : (levelsOf ns)[k]? = some l := by
      have := congrArg (·[0]?) hd
      simpa using this
    have hls : (levelsOf ns).drop (k + 1) = ls := by
      rw [← List.tail_drop, hd, List.tail_cons]
    have hih := ih (k + 1) hls
    have hk : k < ns.length := by
      have := (List.getElem?_eq_some_iff.mp hl).1
      simpa using this
    intro x hx
    rcases List.mem_cons.mp hx with rfl | hx
    · have hget : (linked ns).get? k = some ((levelsOf ns).link k ns[k]) := by
        simp [linked_get?, hk]
      refine .node hget ?_ fun b hb ↦ ?_
      · have := hs.children_eq hl
        rw [hls] at this
        exact this
      · obtain ⟨y, hy, rfl⟩ := List.mem_map.mp hb
        exact hih y (mem_below hy).1
    · exact hih x ((List.dropWhile_sublist _).mem hx)

/-- A linked tree has the one branch of its forest as its unfolding. -/
theorem linked_unfolding? (hs : Stepped (levelsOf ns)) (hne : ns ≠ []) :
    ∃ b, ofLevels 0 (levelsOf ns) = [(0, b)] ∧ (linked ns).unfolding? 0 = some b := by
  obtain ⟨node, ns', rfl⟩ := List.exists_cons_of_ne_nil hne
  have h0 : node.level = 0 := hs.1 _ (by simp)
  have hnil : (ofLevels 1 (levelsOf ns')).beside 0 = [] := by
    refine List.dropWhile_eq_nil_iff.mpr fun x hx ↦ ?_
    obtain ⟨k, hk⟩ := List.mem_iff_getElem?.mp (mem_ofLevels hx)
    have hzero := hs.level_eq_zero_iff (i := k + 1) (l := x.1) (by simpa using hk)
    simp at hzero
    simpa using Nat.pos_of_ne_zero hzero
  have hforest : ofLevels 0 (levelsOf (node :: ns')) =
      [(0, .node 0 ((ofLevels 1 (levelsOf ns')).below 0).branches)] := by
    rw [levelsOf, List.map_cons, h0, ofLevels, plant, hnil]
  have hu := linked_unfolds hs 0 _ (by
    rw [List.drop_zero, hforest]
    exact List.mem_singleton_self _)
  exact ⟨_, hforest, unfolding?_of_unfolds hu⟩

theorem linked_branch (hs : Stepped (levelsOf ns)) (hne : ns ≠ []) :
    ∃ b, (linked ns).unfolding? 0 = some b ∧ Branch.Unfolds (linked ns) b ∧ b.handle = 0 ∧
      b.preorder = List.range ns.length := by
  obtain ⟨b, hforest, hunfolding⟩ := linked_unfolding? hs hne
  have hunfolds : Branch.Unfolds (linked ns) b := by
    have hall := linked_unfolds hs 0
    rw [List.drop_zero, hforest] at hall
    exact hall _ (List.mem_singleton_self _)
  have hpreorder : b.preorder = List.range ns.length := by
    have hall := preorderAll_ofLevels 0 (levelsOf ns)
    rw [hforest] at hall
    simpa [branches, Branch.preorderAll, List.range_eq_range'] using hall
  have hhandle : b.handle = 0 := by
    have hhead : b.preorder.head? = some b.handle := by cases b; rfl
    rw [hpreorder, List.head?_range] at hhead
    simpa [hne] using hhead.symm
  exact ⟨b, hunfolding, hunfolds, hhandle, hpreorder⟩

end Tree

end PpiDump
