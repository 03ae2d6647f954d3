import PpiDump.Proofs.Content
import PpiDump.Proofs.Growth

namespace PpiDump

def Node.links (node : Node) : List Handle :=
  node.root :: node.children.toList ++ node.parent.toList ++ node.prevSibling.toList ++
    node.nextSibling.toList ++ node.prev.toList ++ node.next.toList

/-- What records prescribe of the node at place `i` of their tree. -/
structure Prescribed (rs : List Record) (t : Tree) (i : Nat) (node : Node) : Prop where
  record : ∃ r, rs[i]? = some r ∧ r.Describes node
  id : node.id = i + 1
  root : node.root = 0
  prev : node.prev = if i = 0 then none else some (i - 1)
  next : node.next = if i + 1 < t.size then some (i + 1) else none
  level_zero : node.level = 0 ↔ i = 0
  document : i = 0 → node.kind.isDocument
  parent_none : node.parent = none ↔ i = 0
  parent_some : ∀ p, node.parent = some p ↔
    IsGreatest {j | j < i ∧ ∃ above, t.get? j = some above ∧ above.level + 1 = node.level} p
  children : node.children.toList = (List.range t.size).filter fun j ↦ t.parent? j = some i
  no_siblings : node.parent = none → node.prevSibling = none ∧ node.nextSibling = none
  siblings : ∀ p k, node.parent = some p → (t.children p)[k]? = some i →
    node.prevSibling = (if k = 0 then none else (t.children p)[k - 1]?) ∧
      node.nextSibling = (t.children p)[k + 1]?
  delimiters : node.kind.isBracket ↔ ∃ opening closing, node.payload = .delimiters opening closing
  text : node.kind.isToken ↔ ∃ content, node.payload = .text content
  empty : node.kind.isContainer ↔ node.payload = .empty
  links : ∀ h ∈ node.links, h < t.size

namespace Levels

variable {ls : Levels} {i k p : Nat}

theorem siblings_beside (hp : ls.parent? i = some p) (hk : (ls.children p)[k]? = some i) :
    ls.prevSibling? i = (if k = 0 then none else (ls.children p)[k - 1]?) ∧
      ls.nextSibling? i = (ls.children p)[k + 1]? := by
  have hsorted := children_pairwise ls p
  simp only [prevSibling?, nextSibling?, siblings_eq hp]
  exact ⟨getLast?_filter_lt_eq hsorted hk, find?_lt_eq hsorted hk⟩

theorem no_siblings (hp : ls.parent? i = none) :
    ls.prevSibling? i = none ∧ ls.nextSibling? i = none := by
  have hs : ls.siblings i = [] := by simp [siblings, hp]
  simp [prevSibling?, nextSibling?, hs]

theorem Stepped.links_lt (h : Stepped ls) (hi : i < ls.length) (x : Node) :
    ∀ j ∈ (ls.link i x).links, j < ls.length := by
  intro j hj
  simp only [Node.links, List.mem_append, List.mem_cons, Option.mem_toList, or_assoc] at hj
  rcases hj with rfl | hj | hj | hj | hj | hj | hj
  · exact Nat.zero_lt_of_lt hi
  · exact (mem_children.mp (List.mem_toArray.mp (Array.mem_toList_iff.mp hj))).1
  · exact (h.parent?_lt hj).trans hi
  · exact (mem_siblings_iff.mp (prevSibling?_mem hj)).1
  · exact (mem_siblings_iff.mp (nextSibling?_mem hj)).1
  · simp only [link] at hj
    split at hj <;> simp at hj
    exact hj ▸ (Nat.sub_le i 1).trans_lt hi
  · simp only [link] at hj
    split at hj <;> simp at hj
    exact hj ▸ ‹i + 1 < _›

end Levels

namespace Builder

open Levels

variable {b : Builder} {rs : List Record} {ns : List Node} {node : Node} {i : Nat}

theorem Holds.prescribed (h : b.Holds rs ns) (hi : b.tree.get? i = some node) :
    Prescribed rs b.tree i node := by
  have hsize := h.size_eq
  rw [h.tree] at hi hsize ⊢
  rw [Tree.linked_get?] at hi
  obtain ⟨x, hx, rfl⟩ := Option.map_eq_some_iff.mp hi
  obtain ⟨hlt, hxi⟩ := List.getElem?_eq_some_iff.mp hx
  have hlen : (levelsOf ns).length = ns.length := List.length_map _
  have hlevel : (levelsOf ns)[i]? = some x.level := by simp [hx]
  have hr : i < rs.length := h.length_eq ▸ hlt
  have hd : rs[i].Describes x := hxi ▸ h.describes.get hr hlt
  obtain ⟨hbracket, htoken, hcontainer⟩ := Payload.decode_shape hd.payload
  have hchildren {p : Nat} (hp : (levelsOf ns).parent? i = some p) :
      (Tree.linked ns).children p = ((levelsOf ns).children p).toArray :=
    Tree.linked_children ((h.stepped.parent?_lt hp).trans hlt)
  exact {
    record := ⟨rs[i], List.getElem?_eq_getElem hr, ⟨hd.level, hd.kind, hd.payload⟩⟩
    id := by
      have := congrArg (·[i]?) h.ids
      simpa [hx, hlt, Nat.add_comm, link, ← hxi] using this
    root := rfl
    prev := rfl
    next := by rw [hsize, ← hlen]; rfl
    level_zero := h.stepped.level_eq_zero_iff hlevel
    document := by
      rintro rfl
      exact h.document x (by rw [List.head?_eq_getElem?, hx]; rfl)
    parent_none := h.stepped.parent?_eq_none_iff hlevel
    parent_some := fun p ↦ by
      have : ∀ j, (∃ above, (Tree.linked ns).get? j = some above ∧ above.level + 1 = x.level) ↔
          ∃ m, (levelsOf ns)[j]? = some m ∧ m + 1 = x.level := fun j ↦ by
        simp [Tree.linked_get?, link]
      exact (h.stepped.parent?_eq_some_iff hlevel).trans (by simp [this, link])
    children := by
      simp [link, Levels.children, Tree.linked_parent?, hsize]
    no_siblings := Levels.no_siblings
    siblings := fun p k hp hk ↦ by
      rw [hchildren hp] at hk ⊢
      simp only [List.getElem?_toArray] at hk ⊢
      exact siblings_beside hp hk
    delimiters := hbracket
    text := htoken
    empty := hcontainer
    links := by
      rw [hsize, ← hlen]
      exact h.stepped.links_lt (hlen ▸ hlt) x }

theorem tree_prescribed {fs : List Feed} {tree : Tree} {stats : Stats}
    (h : (({} : Builder).run fs).finish = .ok (tree, stats)) :
    tree.size = (({} : Builder).accepted fs).length ∧ tree.root? = some 0 ∧
      ∀ i node, tree.get? i = some node → Prescribed (({} : Builder).accepted fs) tree i node := by
  obtain ⟨ns, hns⟩ := holds_empty.run fs
  unfold finish at h
  split at h
  · cases h
  · cases h
    refine ⟨?_, ?_, fun i node hi ↦ ?_⟩
    · rw [hns.size_eq, hns.length_eq]
      rfl
    · simp [Tree.root?, *]
    · exact hns.prescribed hi

theorem tree_prescribed_dedent :
    let b := ({} : Builder)
    let fs : List Feed := [.line "PPI::Document".toList, .line "  PPI::Statement".toList, .line [],
      .record ⟨3, "PPI::Node".toList, []⟩, .record ⟨2, "PPI::Structure".toList, "( ... )".toList⟩,
      .line "      PPI::Token::Word 'a'".toList, .line "  PPI::Token::Word 'b'".toList]
    (b.run fs).finish = .ok ((b.run fs).tree, (b.run fs).stats) ∧
      (b.run fs).tree.parent? 4 = some 0 ∧
      ∀ node, (b.run fs).tree.get? 4 = some node →
        Prescribed (b.accepted fs) (b.run fs).tree 4 node :=
  have h := by decide +kernel
  ⟨h, by decide +kernel, (tree_prescribed h).2.2 4⟩

end Builder

end PpiDump
