import Mathlib.Data.List.Basic
import PpiDump.Tree.Walk

namespace PpiDump

namespace Branch

/-- A branch follows the lists of children of a tree down to their ends. -/
inductive Unfolds (t : Tree) : Branch → Prop
  | node {h : Handle} {bs : List Branch} {node : Node} (hget : t.get? h = some node)
      (hchildren : node.children.toList = bs.map handle) (hbelow : ∀ b ∈ bs, Unfolds t b) :
      Unfolds t (.node h bs)

variable {t : Tree} {b b' : Branch} {bs : List Branch}

theorem Unfolds.eq (hb : Unfolds t b) (hb' : Unfolds t b') (h : b.handle = b'.handle) : b = b' := by
  induction hb generalizing b' with
  | @node h bs node hget hchildren _ ih =>
    cases hb' with
    | @node h' bs' node' hget' hchildren' hbelow' =>
      obtain rfl : _ = h' := h
      obtain rfl : node = node' := Option.some.inj (hget.symm.trans hget')
      have hmap : bs.map handle = bs'.map handle := hchildren.symm.trans hchildren'
      have hlen : bs.length = bs'.length := by simpa using congrArg List.length hmap
      have hbs : bs = bs' := by
        refine List.ext_getElem hlen fun k hk hk' ↦ ?_
        refine ih _ (List.getElem_mem hk) (hbelow' _ (List.getElem_mem hk')) ?_
        have := congrArg (·[k]?) hmap
        simpa [hk, hk'] using this
      rw [hbs]
      rfl

theorem Unfolds.lt_size (hb : Unfolds t b) : b.handle < t.size := by
  cases hb with
  | node hget => exact (Array.getElem?_eq_some_iff.mp hget).1

theorem Unfolds.handle_notMem (hb : Unfolds t b) {up : List Handle}
    (hup : ∀ a ∈ up, ∃ c, Unfolds t c ∧ c.handle = a ∧ sizeOf b < sizeOf c) : b.handle ∉ up := by
  intro hmem
  obtain ⟨c, hc, heq, hlt⟩ := hup _ hmem
  rw [hc.eq hb heq] at hlt
  exact Nat.lt_irrefl _ hlt

end Branch

namespace Tree

open Branch

variable {t : Tree} {b : Branch}

theorem mapM_unfoldTo {bs : List Branch} {depth : Nat}
    (h : ∀ b ∈ bs, t.unfoldTo depth b.handle = some b) :
    (bs.map handle).mapM (t.unfoldTo depth) = some bs := by
  induction bs with
  | nil => rfl
  | cons b bs ih =>
    rw [List.map_cons, List.mapM_cons, h b (by simp), ih fun b hb ↦ h b (by simp [hb])]
    rfl

theorem unfoldTo_of_unfolds {depth : Nat} (hb : Unfolds t b) {up : List Handle} (hnodup : up.Nodup)
    (hup : ∀ a ∈ up, ∃ c, Unfolds t c ∧ c.handle = a ∧ sizeOf b < sizeOf c)
    (hdepth : t.size ≤ up.length + depth) : t.unfoldTo depth b.handle = some b := by
  induction depth generalizing b up with
  | zero =>
    have hsub : b.handle :: up ⊆ List.range t.size := by
      intro a ha
      refine List.mem_range.mpr ?_
      rcases List.mem_cons.mp ha with rfl | ha
      · exact hb.lt_size
      · obtain ⟨c, hc, rfl, -⟩ := hup a ha
        exact hc.lt_size
    have := (List.nodup_cons.mpr ⟨hb.handle_notMem hup, hnodup⟩).length_le_of_subset hsub
    simp at this
    omega
  | succ depth ih =>
    have hnew := hb.handle_notMem hup
    cases hb with
    | @node h bs node hget hchildren hbelow =>
      have hbranches : ∀ b ∈ bs, t.unfoldTo depth b.handle = some b := by
        intro b hb
        have hlt : sizeOf b < sizeOf (Branch.node h bs) := by
          have := List.sizeOf_lt_of_mem hb
          simp only [Branch.node.sizeOf_spec]
          omega
        refine ih (hbelow b hb) (List.nodup_cons.mpr ⟨hnew, hnodup⟩) ?_ ?_
        · intro a ha
          rcases List.mem_cons.mp ha with rfl | ha
          · exact ⟨_, .node hget hchildren hbelow, rfl, hlt⟩
          · obtain ⟨c, hc, heq, hc'⟩ := hup a ha
            exact ⟨c, hc, heq, Nat.lt_trans hlt hc'⟩
        · simp only [List.length_cons]
          omega
      simp only [unfoldTo, Branch.handle, hget, hchildren, mapM_unfoldTo hbranches, Option.map_some]

theorem unfolding?_of_unfolds (hb : Unfolds t b) : t.unfolding? b.handle = some b :=
  unfoldTo_of_unfolds hb List.nodup_nil (by simp) (by simp)

end Tree

end PpiDump
