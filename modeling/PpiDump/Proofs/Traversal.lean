import PpiDump.Proofs.Nesting
import PpiDump.Proofs.Growth

namespace PpiDump

/-- Asked again and again, an iterator in a state yields these values and then ends. -/
inductive Yields {σ α : Type} (next : σ → Option (α × σ)) : σ → List α → Prop
  | done {s : σ} (h : next s = none) : Yields next s []
  | more {s s' : σ} {a : α} {as : List α} (h : next s = some (a, s')) (has : Yields next s' as) :
      Yields next s (a :: as)

def along (link : Handle → Option Handle) (h? : Option Handle) : Option (Handle × Option Handle) :=
  h?.map fun h ↦ (h, link h)

theorem Yields.follow_eq {link : Handle → Option Handle} {h? : Option Handle} {hs : List Handle}
    {steps : Nat} (h : Yields (along link) h? hs) (hn : hs.length ≤ steps) :
    follow link steps h? = hs := by
  induction h generalizing steps with
  | @done h? h =>
    obtain rfl : h? = none := Option.map_eq_none_iff.mp h
    cases steps <;> rfl
  | @more h? _ _ hs h _ ih =>
    obtain ⟨k, rfl, heq⟩ := Option.map_eq_some_iff.mp h
    cases heq
    cases steps with
    | zero => simp at hn
    | succ steps => rw [follow, ih (Nat.le_of_succ_le_succ hn)]

namespace Tree

def level (t : Tree) (h : Handle) : Nat := ((t.get? h).map Node.level).getD 0

/-- The first node behind a node that is no deeper; the end of the tree if there is none. -/
def endOf (t : Tree) (h : Handle) : Handle :=
  ((List.range t.size).find? fun k ↦ h < k ∧ t.level k ≤ t.level h).getD t.size

/-- The walks over a tree agree: its nodes are visited in the order of their ids, what lies below a
node is the stretch of that order up to its end, and what lies above a node are the nodes in whose
stretches it comes. -/
structure Ordered (t : Tree) : Prop where
  flat_ends : Yields (along t.next?) t.root? t.flat
  flat : t.flat = List.range t.size
  flat_ids : t.flat.map (fun h ↦ (t.get? h).map Node.id) = (List.range' 1 t.size).map some
  preorder_ends : Yields t.visit t.root?.toList t.preorder
  preorder : t.preorder = t.flat
  below : ∀ a b, a < t.size →
    (Relation.ReflTransGen (fun p c ↦ c ∈ t.children p) a b ↔ a ≤ b ∧ b < t.endOf a)
  above_ends : ∀ b, Yields (along t.parent?) (t.parent? b) (t.ancestors b)
  above_levels : ∀ b, (t.ancestors b).map t.level = (List.range (t.level b)).reverse
  above_root : ∀ b, b < t.size → (b :: t.ancestors b).getLast? = some 0
  above : ∀ a b, a ∈ t.ancestors b ↔ a < b ∧ b < t.endOf a

variable {t : Tree} {a b : Handle} {ns : List Node}

theorem lt_endOf_iff (t : Tree) (a b : Handle) :
    b < t.endOf a ↔ b < t.size ∧ ∀ k, a < k → k ≤ b → t.level a < t.level k := by
  unfold endOf
  cases hfind : (List.range t.size).find? fun k ↦ a < k ∧ t.level k ≤ t.level a with
  | none =>
    have hall := List.find?_range_eq_none.mp hfind
    simp only [Option.getD_none]
    refine ⟨fun hb ↦ ⟨hb, fun k hak hkb ↦ ?_⟩, And.left⟩
    simpa [hak] using hall k (hkb.trans_lt hb)
  | some e =>
    obtain ⟨he, hsize, hfirst⟩ := List.find?_range_eq_some.mp hfind
    simp only [decide_eq_true_eq, List.mem_range] at he hsize
    simp only [Option.getD_some]
    constructor
    · intro hbe
      refine ⟨hbe.trans hsize, fun k hak hkb ↦ ?_⟩
      simpa [hak] using hfirst k (hkb.trans_lt hbe)
    · rintro ⟨-, hdeeper⟩
      by_contra hle
      have := hdeeper e he.1 (Nat.not_lt.mp hle)
      omega

theorem linked_level (ns : List Node) (i : Nat) :
    (linked ns).level i = ((levelsOf ns)[i]?).getD 0 := by
  cases hi : ns[i]? <;> simp [level, linked_get?, hi, Levels.link]

theorem linked_level_zero (hs : Levels.Stepped (levelsOf ns)) : (linked ns).level 0 = 0 := by
  rw [linked_level]
  cases hlevel : (levelsOf ns)[0]? with
  | none => rfl
  | some l => exact (hs.level_eq_zero_iff hlevel).mpr rfl

theorem linked_level_of_parent? {p : Handle} (hs : Levels.Stepped (levelsOf ns))
    (hp : (linked ns).parent? b = some p) : (linked ns).level b = (linked ns).level p + 1 := by
  rw [linked_parent?] at hp
  have hlevel := List.getElem?_eq_getElem (Levels.lt_length_of_parent? hp)
  obtain ⟨m, hm, hml⟩ := hs.parent?_level hlevel hp
  rw [linked_level, linked_level, hlevel, hm]
  exact hml.symm

theorem linked_encloses_iff (hb : b < ns.length) :
    (levelsOf ns).Encloses a b ↔ a ≤ b ∧ b < (linked ns).endOf a := by
  refine and_congr_right fun hab ↦ ?_
  rw [lt_endOf_iff, linked_size]
  have hlevel {k : Nat} (hk : k ≤ b) : (levelsOf ns)[k]? = some ((linked ns).level k) := by
    have hlt : k < ns.length := hk.trans_lt hb
    simp [linked_level, hlt]
  constructor
  · intro h
    exact ⟨hb, fun k hak hkb ↦ h k _ _ hak hkb (hlevel hab) (hlevel hkb)⟩
  · rintro ⟨-, h⟩ k l m hak hkb hl hm
    obtain rfl := Option.some.inj (hl.symm.trans (hlevel hab))
    obtain rfl := Option.some.inj (hm.symm.trans (hlevel hkb))
    exact h k hak hkb

theorem mem_linked_children (hs : Levels.Stepped (levelsOf ns)) (p c : Nat) :
    c ∈ (linked ns).children p ↔ (levelsOf ns).parent? c = some p := by
  by_cases hp : p < ns.length
  · rw [linked_children hp, List.mem_toArray, Levels.mem_children]
    exact and_iff_right_of_imp Levels.lt_length_of_parent?
  · have hnone : (linked ns).get? p = none := by simp [linked_get?, hp]
    refine iff_of_false (by simp [children, hnone]) fun h ↦ hp ?_
    have hlt : c < (levelsOf ns).length := Levels.lt_length_of_parent? h
    rw [List.length_map] at hlt
    exact (hs.parent?_lt h).trans hlt

theorem linked_next? (ns : List Node) (i : Nat) :
    (linked ns).next? i = if i + 1 < ns.length then some (i + 1) else none := by
  by_cases hi : i < ns.length
  · simp [next?, linked_get?, hi, Levels.link]
  · simp [next?, linked_get?, hi]
    omega

theorem yields_next? {k n : Nat} (hn : k + n + 1 = ns.length) :
    Yields (along (linked ns).next?) (some k) (List.range' k (n + 1)) := by
  induction n generalizing k with
  | zero =>
    have hlast : (linked ns).next? k = none := by rw [linked_next?, if_neg (by omega)]
    exact .more rfl (.done (congrArg (along _) hlast))
  | succ n ih =>
    have hnext : (linked ns).next? k = some (k + 1) := by rw [linked_next?, if_pos (by omega)]
    refine .more rfl ?_
    rw [hnext]
    exact ih (by omega)

theorem linked_flat_ends (ns : List Node) :
    Yields (along (linked ns).next?) (linked ns).root? (List.range ns.length) := by
  cases ns with
  | nil => exact .done rfl
  | cons node ns =>
    rw [linked_root?_of_ne_nil (List.cons_ne_nil node ns), List.range_eq_range']
    exact yields_next? (Nat.zero_add _ ▸ rfl)

theorem linked_flat (ns : List Node) : (linked ns).flat = List.range ns.length := by
  rw [flat, linked_size]
  exact (linked_flat_ends ns).follow_eq (by simp)

theorem walk_eq {stack hs : List Handle} {steps : Nat} (h : Yields t.visit stack hs)
    (hn : hs.length ≤ steps) : t.walk steps stack = hs := by
  induction h generalizing steps with
  | @done stack h => cases steps <;> simp [walk, h]
  | more h _ ih =>
    cases steps with
    | zero => simp at hn
    | succ steps => simp only [walk, h, ih (Nat.le_of_succ_le_succ hn)]

theorem yields_branches {bs : List Branch} {rest hs : List Handle}
    (h : ∀ b ∈ bs, ∀ rest hs, Yields t.visit rest hs →
      Yields t.visit (b.handle :: rest) (b.preorder ++ hs))
    (hrest : Yields t.visit rest hs) :
    Yields t.visit (bs.map Branch.handle ++ rest) (Branch.preorderAll bs ++ hs) := by
  induction bs with
  | nil => exact hrest
  | cons b bs ih =>
    rw [List.map_cons, List.cons_append, Branch.preorderAll, List.append_assoc]
    exact h b List.mem_cons_self _ _ (ih fun b' hb' ↦ h b' (List.mem_cons_of_mem b hb'))

theorem yields_branch {br : Branch} (hbr : br.Unfolds t) {rest hs : List Handle}
    (hrest : Yields t.visit rest hs) :
    Yields t.visit (br.handle :: rest) (br.preorder ++ hs) := by
  induction hbr generalizing rest hs with
  | @node h bs node hget hchildren _ ih =>
    have hlist : (t.children h).toList = bs.map Branch.handle := by
      simp [children, hget, hchildren]
    refine .more ?_ (yields_branches (fun b hb _ _ ↦ ih b hb) hrest)
    rw [Branch.handle, visit, hlist]

theorem preorder_of_unfolds {br : Branch} (hroot : t.root? = some br.handle)
    (hbr : br.Unfolds t) :
    Yields t.visit t.root?.toList br.preorder ∧ t.preorder = br.preorder := by
  have hend : Yields t.visit [] [] := .done rfl
  have hyields := yields_branch hbr hend
  rw [List.append_nil] at hyields
  rw [preorder, hroot]
  refine ⟨hyields, walk_eq hyields ?_⟩
  rw [walkLength, unfolding?_of_unfolds hbr]

theorem linked_preorder (hs : Levels.Stepped (levelsOf ns)) (hne : ns ≠ []) :
    Yields (linked ns).visit (linked ns).root?.toList (List.range ns.length) ∧
      (linked ns).preorder = List.range ns.length := by
  obtain ⟨br, -, hunfolds, hhandle, hpreorder⟩ := linked_branch hs hne
  have hroot : (linked ns).root? = some br.handle := hhandle ▸ linked_root?_of_ne_nil hne
  rw [← hpreorder]
  exact preorder_of_unfolds hroot hunfolds

theorem linked_ancestors (hs : Levels.Stepped (levelsOf ns)) (hb : b < ns.length) :
    ∃ as, Yields (along (linked ns).parent?) ((linked ns).parent? b) as ∧ as.length ≤ b ∧
      as.map (linked ns).level = (List.range ((linked ns).level b)).reverse ∧
      (b :: as).getLast? = some 0 ∧ ∀ a, a ∈ as ↔ a < b ∧ (levelsOf ns).Encloses a b := by
  induction b using Nat.strongRecOn with
  | ind b ih =>
    have hlevel : (levelsOf ns)[b]? = some ns[b].level := by simp [hb]
    cases hp : (levelsOf ns).parent? b with
    | none =>
      obtain rfl := (hs.parent?_eq_none_iff hlevel).mp hp
      refine ⟨[], .done ?_, le_rfl, by rw [linked_level_zero hs]; rfl, rfl, by simp⟩
      rw [linked_parent?, hp]
      rfl
    | some p =>
      have hpb := hs.parent?_lt hp
      obtain ⟨as, has, hlen, hmap, hlast, hmem⟩ := ih p hpb (hpb.trans hb)
      have hup := linked_level_of_parent? hs ((linked_parent? ns b).trans hp)
      refine ⟨p :: as, ?_, ?_, ?_, hlast, fun a ↦ ?_⟩
      · rw [linked_parent?, hp]
        exact .more rfl has
      · rw [List.length_cons]
        omega
      · rw [List.map_cons, hmap, hup, List.range_succ, List.reverse_append]
        rfl
      · rw [List.mem_cons, hmem, hs.encloses_iff hp]
        constructor
        · rintro (rfl | ⟨hap, hin⟩)
          · exact ⟨hpb, .inr (Levels.encloses_self _ _)⟩
          · exact ⟨hap.trans hpb, .inr hin⟩
        · rintro ⟨hab, rfl | hin⟩
          · exact absurd hab (Nat.lt_irrefl a)
          · exact hin.1.eq_or_lt.imp_right fun hap ↦ ⟨hap, hin⟩

theorem linked_ancestors_of_le (hb : ns.length ≤ b) :
    Yields (along (linked ns).parent?) ((linked ns).parent? b) [] ∧ (linked ns).level b = 0 := by
  have hnone : (linked ns).get? b = none := by simp [linked_get?, hb]
  refine ⟨.done ?_, by simp [level, hnone]⟩
  simp [along, parent?, hnone]

theorem linked_above (hs : Levels.Stepped (levelsOf ns)) (b : Nat) :
    Yields (along (linked ns).parent?) ((linked ns).parent? b) ((linked ns).ancestors b) ∧
      ((linked ns).ancestors b).map (linked ns).level =
        (List.range ((linked ns).level b)).reverse ∧
      (b < ns.length → (b :: (linked ns).ancestors b).getLast? = some 0) ∧
      ∀ a, a ∈ (linked ns).ancestors b ↔ a < b ∧ b < (linked ns).endOf a := by
  rcases Nat.lt_or_ge b ns.length with hb | hb
  · obtain ⟨as, has, hlen, hmap, hlast, hmem⟩ := linked_ancestors hs hb
    have heq : (linked ns).ancestors b = as :=
      has.follow_eq (linked_size ns ▸ hlen.trans hb.le)
    rw [heq]
    refine ⟨has, hmap, fun _ ↦ hlast, fun a ↦ ?_⟩
    rw [hmem, linked_encloses_iff hb]
    exact and_congr_right fun hab ↦ and_iff_right hab.le
  · obtain ⟨hnone, hlevel⟩ := linked_ancestors_of_le hb
    have heq : (linked ns).ancestors b = [] := hnone.follow_eq (Nat.zero_le _)
    rw [heq, hlevel]
    refine ⟨hnone, rfl, fun h ↦ absurd h hb.not_gt, fun a ↦ iff_of_false List.not_mem_nil ?_⟩
    rintro ⟨-, hend⟩
    rw [lt_endOf_iff, linked_size] at hend
    exact hb.not_gt hend.1

theorem linked_below (hs : Levels.Stepped (levelsOf ns)) (ha : a < ns.length) :
    Relation.ReflTransGen (fun p c ↦ c ∈ (linked ns).children p) a b ↔
      a ≤ b ∧ b < (linked ns).endOf a := by
  simp only [mem_linked_children hs]
  rcases Nat.lt_or_ge b ns.length with hb | hb
  · rw [hs.reaches_iff (by simpa using hb), linked_encloses_iff hb]
  · refine iff_of_false (fun h ↦ ?_) fun ⟨_, hend⟩ ↦ ?_
    · rcases Relation.ReflTransGen.cases_tail h with rfl | ⟨p, -, hp⟩
      · exact hb.not_gt ha
      · have hlt : b < (levelsOf ns).length := Levels.lt_length_of_parent? hp
        exact hb.not_gt (by simpa using hlt)
    · rw [lt_endOf_iff, linked_size] at hend
      exact hb.not_gt hend.1

theorem linked_ordered (hs : Levels.Stepped (levelsOf ns)) (hne : ns ≠ [])
    (hids : ns.map Node.id = List.range' 1 ns.length) : (linked ns).Ordered := by
  obtain ⟨hyields, hpreorder⟩ := linked_preorder hs hne
  have hflat := linked_flat ns
  exact {
    flat_ends := hflat ▸ linked_flat_ends ns
    flat := by rw [hflat, linked_size]
    flat_ids := by
      rw [hflat, linked_size, ← hids]
      refine List.ext_getElem (by simp) fun i hi hi' ↦ ?_
      have hlt : i < ns.length := by simpa using hi
      simp [linked_get?, hlt, Levels.link]
    preorder_ends := hpreorder ▸ hyields
    preorder := hpreorder.trans hflat.symm
    below := fun a b ha ↦ linked_below hs (linked_size ns ▸ ha)
    above_ends := fun b ↦ (linked_above hs b).1
    above_levels := fun b ↦ (linked_above hs b).2.1
    above_root := fun b hb ↦ (linked_above hs b).2.2.1 (linked_size ns ▸ hb)
    above := fun a b ↦ (linked_above hs b).2.2.2 a }

end Tree

namespace Builder

theorem tree_ordered {fs : List Feed} {tree : Tree} {stats : Stats}
    (h : (({} : Builder).run fs).finish = .ok (tree, stats)) : tree.Ordered := by
  obtain ⟨ns, hns⟩ := holds_empty.run fs
  obtain ⟨rfl, -, hne⟩ := hns.of_finish h
  rw [hns.tree]
  exact Tree.linked_ordered hns.stepped hne hns.ids

theorem tree_ordered_dedent :
    let fs : List Feed := [.line "PPI::Document".toList, .line "  PPI::Statement".toList,
      .record ⟨3, "PPI::Node".toList, []⟩, .record ⟨2, "PPI::Node".toList, []⟩,
      .line "      PPI::Token::Word 'a'".toList, .line [], .line "  PPI::Token::Word 'b'".toList]
    let b := ({} : Builder).run fs
    b.finish = .ok (b.tree, b.stats) ∧ b.tree.Ordered ∧ b.tree.preorder = [0, 1, 2, 3, 4] ∧
      b.tree.endOf 1 = 4 ∧ b.tree.ancestors 3 = [2, 1, 0] ∧ b.tree.ancestors 4 = [0] :=
  have h := by decide +kernel
  have hwalks := by decide +kernel
  ⟨h, tree_ordered h, hwalks⟩

end Builder

end PpiDump
