import PpiDump.Proofs.Traversal

namespace PpiDump

namespace Levels

variable {ls : Levels} {a a' b i l m n : Nat}

theorem Encloses.unique (h : ls.Encloses a b) (h' : ls.Encloses a' b) (ha : ls[a]? = some l)
    (ha' : ls[a']? = some l) : a = a' := by
  rcases Nat.lt_trichotomy a a' with hlt | rfl | hlt
  · have := h.2 a' l l hlt h'.1 ha ha'
    omega
  · rfl
  · have := h'.2 a l l hlt h.1 ha' ha
    omega

theorem Stepped.lastAt_zero (h : Stepped ls) (hm : ls.getLast? = some m) : ls.lastAt 0 = 0 := by
  obtain ⟨hat, -⟩ := lastAt_of_mem (h.mem hm (Nat.zero_le m))
  exact (h.level_eq_zero_iff hat).mp rfl

theorem Stepped.encloses_lastAt (h : Stepped ls) (hm : ls.getLast? = some m) (hl : l ≤ m) :
    ls.Encloses (ls.lastAt l) (ls.length - 1) := by
  obtain ⟨hat, hbehind⟩ := lastAt_of_mem (h.mem hm hl)
  have hlt := (List.getElem?_eq_some_iff.mp hat).1
  rw [List.getLast?_eq_getElem?] at hm
  refine ⟨by omega, ?_⟩
  intro k l' n hk hk' hl' hn
  obtain rfl : l = l' := Option.some.inj (hat.symm.trans hl')
  by_contra hle
  -- On the way from `k` to the end the level would be passed once more.
  rcases hl.eq_or_lt with rfl | hlm
  · exact hbehind (ls.length - 1) (by omega) hm
  · have hne : k ≠ ls.length - 1 := by
      rintro rfl
      have := Option.some.inj (hm.symm.trans hn)
      omega
    obtain ⟨k', hkk', -, hk'l⟩ := h.exists_between hn (Nat.not_lt.mp hle) hm hlm (by omega)
    exact hbehind k' (by omega) hk'l

theorem stack_reverse (ls : Levels) (l : Nat) :
    (ls.stack l).reverse = (List.range l).map fun i ↦ ls.lastAt (i - 1) := by
  induction l with
  | zero => rfl
  | succ l ih =>
    rw [stack, List.reverse_cons, ih, List.range_succ, List.map_append]
    rfl

theorem stack_getElem? (hi : i < l) : (ls.stack l).reverse[i]? = some (ls.lastAt (i - 1)) := by
  rw [stack_reverse, List.getElem?_map, List.getElem?_range hi]
  rfl

theorem stack_length (ls : Levels) (l : Nat) : (ls.stack l).length = l := by
  rw [← List.length_reverse, stack_reverse, List.length_map, List.length_range]

theorem stack_drop (ls : Levels) (n l : Nat) : (ls.stack l).drop n = ls.stack (l - n) := by
  induction n generalizing l with
  | zero => rfl
  | succ n ih =>
    cases l with
    | zero => simp [stack]
    | succ l =>
      have hl : l + 1 - (n + 1) = l - n := by omega
      rw [stack, List.drop_succ_cons, ih, hl]

end Levels

namespace Tree

open Levels

variable {t : Tree} {ns : List Node} {l m : Nat}

def OnlyAt (t : Tree) (hs : List Handle) (l : Nat) (h : Handle) : Prop :=
  ∀ k, k ∈ hs ∧ t.level k = l ↔ k = h

theorem linked_level_last (hm : (levelsOf ns).getLast? = some m) :
    (linked ns).level (ns.length - 1) = m := by
  rw [List.getLast?_eq_getElem?, List.length_map] at hm
  rw [linked_level, hm, Option.getD_some]

theorem mem_last_ancestors (hs : Stepped (levelsOf ns)) (hne : ns ≠ []) (k : Nat) :
    k ∈ (ns.length - 1) :: (linked ns).ancestors (ns.length - 1) ↔
      (levelsOf ns).Encloses k (ns.length - 1) := by
  have hlast : ns.length - 1 < ns.length := Nat.sub_one_lt (mt List.length_eq_zero_iff.mp hne)
  obtain ⟨-, -, -, hmem⟩ := linked_above hs (ns.length - 1)
  rw [List.mem_cons, hmem, linked_encloses_iff hlast]
  constructor
  · rintro (rfl | ⟨hlt, hend⟩)
    · have hself := encloses_self (levelsOf ns) (ns.length - 1)
      exact (linked_encloses_iff hlast).mp hself
    · exact ⟨hlt.le, hend⟩
  · rintro ⟨hle, hend⟩
    exact hle.eq_or_lt.imp_right fun hlt ↦ ⟨hlt, hend⟩

theorem onlyAt_last_ancestors (hs : Stepped (levelsOf ns)) (hm : (levelsOf ns).getLast? = some m)
    (hl : l ≤ m) :
    (linked ns).OnlyAt ((ns.length - 1) :: (linked ns).ancestors (ns.length - 1)) l
      ((levelsOf ns).lastAt l) := by
  have hne : ns ≠ [] := by
    rintro rfl
    cases hm
  have hlen : (levelsOf ns).length = ns.length := List.length_map _
  have hencloses := hs.encloses_lastAt hm hl
  obtain ⟨hat, -⟩ := lastAt_of_mem (hs.mem hm hl)
  rw [hlen] at hencloses
  intro k
  rw [mem_last_ancestors hs hne]
  constructor
  · rintro ⟨hk, rfl⟩
    have hlast : ns.length - 1 < ns.length := Nat.sub_one_lt (mt List.length_eq_zero_iff.mp hne)
    have hlt : k < ns.length := hk.1.trans_lt hlast
    have hlevel : (levelsOf ns)[k]? = some ((linked ns).level k) := by simp [linked_level, hlt]
    exact hk.unique hencloses hlevel hat
  · rintro rfl
    refine ⟨hencloses, ?_⟩
    rw [linked_level, hat, Option.getD_some]

theorem onlyAt_ancestors (hs : Stepped (levelsOf ns)) (hm : (levelsOf ns).getLast? = some m)
    (hl : l < m) :
    (linked ns).OnlyAt ((linked ns).ancestors (ns.length - 1)) l ((levelsOf ns).lastAt l) := by
  intro k
  rw [← onlyAt_last_ancestors hs hm hl.le k, List.mem_cons]
  refine and_congr_left fun hlevel ↦ (or_iff_right ?_).symm
  rintro rfl
  rw [linked_level_last hm] at hlevel
  omega

theorem linked_parent_or_root (hs : Stepped (levelsOf ns)) (hm : (levelsOf ns).getLast? = some m) :
    ((linked ns).parent? (ns.length - 1)).or (linked ns).root? =
      some ((levelsOf ns).lastAt (m - 1)) := by
  have hzero := hs.lastAt_zero hm
  obtain ⟨ls, hls⟩ := List.getLast?_eq_some_iff.mp hm
  have hlen : ns.length - 1 = ls.length := by
    have := congrArg List.length hls
    simp at this
    omega
  have hne : ns ≠ [] := by
    rintro rfl
    cases hm
  rw [linked_parent?, hlen, linked_root?_of_ne_nil hne]
  cases m with
  | zero =>
    have hparent : (levelsOf ns).parent? ls.length = none := by simp [hls, Levels.parent?]
    rw [hparent, Nat.zero_sub, hzero, Option.none_or]
  | succ m =>
    rw [hls, parent?_snoc_length, Option.some_or, Nat.add_sub_cancel, lastAt_snoc,
      if_neg (by omega)]

end Tree

/-- The cursor stands behind the last node of a tree. -/
structure Cursor.Behind (c : Cursor) (t : Tree) (h : Handle) : Prop where
  last : c.last = some h
  level : c.level = some (t.level h)
  depth : c.above.length = t.level h
  parent : c.parent = (t.parent? h).or t.root?
  bottom : ∀ a, c.above.reverse[0]? = some a → t.root? = some a
  above : ∀ i, 1 ≤ i → i < t.level h →
    ∃ a, c.above.reverse[i]? = some a ∧ t.OnlyAt (t.ancestors h) (i - 1) a

namespace Cursor

open Levels PpiDump.Tree

variable {ns : List Node} {l m : Nat}

theorem after_eq {ls : Levels} (hm : ls.getLast? = some m) :
    after ls = ⟨some (ls.length - 1), some m, ls.stack m, some (ls.lastAt (m - 1))⟩ := by
  simp only [after, hm]

theorem behind_linked (hs : Stepped (levelsOf ns)) (hm : (levelsOf ns).getLast? = some m) :
    (after (levelsOf ns)).Behind (linked ns) (ns.length - 1) := by
  have hlen : (levelsOf ns).length = ns.length := List.length_map _
  have hne : ns ≠ [] := by
    rintro rfl
    cases hm
  have hlevel := linked_level_last hm
  rw [after_eq hm]
  refine ⟨?_, ?_, ?_, ?_, ?_, ?_⟩
  · rw [hlen]
  · rw [hlevel]
  · rw [hlevel]
    exact stack_length (levelsOf ns) m
  · exact (linked_parent_or_root hs hm).symm
  · intro h hbottom
    have hpos : 0 < m := by
      have hlt := (List.getElem?_eq_some_iff.mp hbottom).1
      rwa [List.length_reverse, stack_length] at hlt
    rw [stack_getElem? hpos, Nat.zero_sub, hs.lastAt_zero hm] at hbottom
    rw [linked_root?_of_ne_nil hne, hbottom]
  · intro i hi him
    rw [hlevel] at him
    exact ⟨_, stack_getElem? him, onlyAt_ancestors hs hm (by omega)⟩

theorem move_behind (hs : Stepped (levelsOf ns)) (hm : (levelsOf ns).getLast? = some m)
    (hpos : 1 ≤ l) (hl : l ≤ m + 1) :
    ∃ c, (after (levelsOf ns)).move l = (c, true) ∧ c.level = some l ∧
      c.above = (if m < l then (after (levelsOf ns)).parent.toList ++ (after (levelsOf ns)).above
        else (after (levelsOf ns)).above.drop (m - l)) ∧
      ∃ h, c.parent = some h ∧ (linked ns).OnlyAt
        ((ns.length - 1) :: (linked ns).ancestors (ns.length - 1)) (l - 1) h := by
  have hstepped : Stepped (levelsOf ns ++ [l]) := by
    rw [stepped_snoc, hm]
    exact ⟨hs, hpos, hl⟩
  refine ⟨facing (levelsOf ns) l, move_after hstepped, rfl, ?_, (levelsOf ns).lastAt (l - 1),
    ?_, ?_⟩
  · rw [after_eq hm]
    dsimp only [facing]
    split
    · obtain rfl : l = m + 1 := by omega
      rfl
    · rw [stack_drop, Nat.sub_sub_self (by omega)]
  · obtain ⟨l, rfl⟩ := Nat.exists_eq_add_of_le' hpos
    exact parent?_snoc_length (levelsOf ns) l
  · exact onlyAt_last_ancestors hs hm (by omega)

end Cursor

namespace Builder

/-- However a builder was fed, its cursor stands behind the last node, and what may come next finds
its parent by a move that cannot fail. -/
theorem cursor_behind (fs : List Feed) :
    let b := ({} : Builder).run fs
    let last := b.tree.size - 1
    let depth := b.tree.level last
    b.tree.size ≠ 0 →
      b.cursor.Behind b.tree last ∧
      (∀ r node, readNode b.cursor.level b.line (b.tree.size + 1) r = .ok node →
        1 ≤ r.level ∧ r.level ≤ depth + 1) ∧
      ∀ l, 1 ≤ l → l ≤ depth + 1 → ∃ c, b.cursor.move l = (c, true) ∧ c.level = some l ∧
        c.above = (if depth < l then b.cursor.parent.toList ++ b.cursor.above
          else b.cursor.above.drop (depth - l)) ∧
        ∃ h, c.parent = some h ∧
          b.tree.OnlyAt (last :: b.tree.ancestors last) (l - 1) h := by
  intro b last depth hsize
  obtain ⟨ns, h⟩ := holds_empty.run fs
  have hlen : b.tree.size = ns.length := h.size_eq
  have htree : b.tree = Tree.linked ns := h.tree
  have hcursor : b.cursor = Cursor.after (levelsOf ns) := h.cursor
  obtain ⟨m, hm⟩ : ∃ m, (levelsOf ns).getLast? = some m := by
    refine Option.ne_none_iff_exists'.mp fun hnone ↦ hsize ?_
    rw [hlen, List.map_eq_nil_iff.mp (List.getLast?_eq_none_iff.mp hnone), List.length_nil]
  have hlast : last = ns.length - 1 := congrArg (· - 1) hlen
  have hdepth : depth = m := by
    dsimp only [depth]
    rw [hlast, htree]
    exact Tree.linked_level_last hm
  have hlevel : b.cursor.level = some m := by rw [hcursor, Cursor.after_eq hm]
  rw [hdepth, hlast, htree, hlevel, hcursor]
  refine ⟨Cursor.behind_linked h.stepped hm, ?_, fun l ↦ Cursor.move_behind h.stepped hm⟩
  intro r node hread
  obtain ⟨-, -, -, -, hplace⟩ := readNode_eq_ok hread
  exact checkPlace_eq_ok_iff.mp hplace

theorem cursor_behind_dedent :
    let fs : List Feed := [.line "PPI::Document".toList, .line "  PPI::Statement".toList,
      .record ⟨2, "PPI::Node".toList, []⟩, .record ⟨4, "PPI::Node".toList, []⟩, .line [],
      .line "      PPI::Token::Word 'a'".toList]
    let b := ({} : Builder).run fs
    b.tree.size ≠ 0 ∧ b.cursor.Behind b.tree 3 ∧ b.cursor.above = [1, 0, 0] ∧
      ∃ c, b.cursor.move 1 = (c, true) ∧ c.level = some 1 ∧ c.above = b.cursor.above.drop 2 ∧
        ∃ h, c.parent = some h ∧ b.tree.OnlyAt (3 :: b.tree.ancestors 3) 0 h := by
  intro fs b
  have hsize : b.tree.size ≠ 0 := by decide +kernel
  have hshape : b.tree.size - 1 = 3 ∧ b.tree.level 3 = 3 ∧ b.cursor.above = [1, 0, 0] := by
    decide +kernel
  obtain ⟨hlast, hdepth, habove⟩ := hshape
  obtain ⟨hbehind, -, hmove⟩ := cursor_behind fs hsize
  have hone := hmove 1 le_rfl (by omega)
  have hlast' : (({} : Builder).run fs).tree.size - 1 = 3 := hlast
  rw [hlast'] at hbehind hone
  have hdepth' : (({} : Builder).run fs).tree.level 3 = 3 := hdepth
  rw [hdepth', if_neg (by omega)] at hone
  exact ⟨hsize, hbehind, habove, hone⟩

end Builder

end PpiDump
