import PpiDump.Builder
import PpiDump.Proofs.Cursor

namespace PpiDump

variable {t : Tree} {node : Node} {ns : List Node} {h i : Nat}

namespace Tree

theorem ext_get? {t t' : Tree} (h : ∀ i : Nat, t.get? i = t'.get? i) : t = t' :=
  congrArg Tree.mk (Array.ext_getElem? h)

theorem get?_push (t : Tree) (node : Node) (i : Nat) :
    (t.push node).get? i = if i = t.size then some node else t.get? i :=
  Array.getElem?_push

theorem get?_modify? (t : Tree) (h? : Option Nat) (f : Node → Node) (i : Nat) :
    (t.modify? h? f).get? i = if h? = some i then (t.get? i).map f else t.get? i := by
  cases h? with
  | none => rfl
  | some h => simp [modify?, modify, get?, Array.getElem?_modify]

theorem children_eq (t : Tree) (i : Nat) :
    t.children i = ((t.get? i).map Node.children).getD #[] := by
  unfold children
  cases t.get? i <;> rfl

end Tree

def Node.bare (node : Node) : Node :=
  { id := node.id, kind := node.kind, level := node.level, line := node.line
    payload := node.payload }

/-- A node with all links that belong to place `i`. -/
def Levels.link (ls : Levels) (i : Nat) (node : Node) : Node :=
  { node with
    root := 0
    parent := ls.parent? i
    children := (ls.children i).toArray
    prevSibling := ls.prevSibling? i
    nextSibling := ls.nextSibling? i
    prev := if i = 0 then none else some (i - 1)
    next := if i + 1 < ls.length then some (i + 1) else none }

abbrev levelsOf (ns : List Node) : Levels := ns.map Node.level

theorem levelsOf_snoc (ns : List Node) (node : Node) :
    levelsOf (ns ++ [node]) = levelsOf ns ++ [node.level] := List.map_append

def Tree.linked (ns : List Node) : Tree :=
  ⟨(ns.mapIdx fun i node ↦ (levelsOf ns).link i node).toArray⟩

namespace Tree

theorem linked_size (ns : List Node) : (linked ns).size = ns.length := by simp [linked, size]

theorem linked_get? (ns : List Node) (i : Nat) :
    (linked ns).get? i = ns[i]?.map ((levelsOf ns).link i) := by
  simp [linked, get?]

theorem linked_isEmpty (ns : List Node) : (linked ns).isEmpty = ns.isEmpty := by
  cases ns <;> simp [linked, isEmpty]

theorem linked_root? (ns : List Node) : (linked ns).root?.getD 0 = 0 := by
  unfold root?
  split <;> rfl

theorem linked_root?_of_ne_nil {ns : List Node} (hne : ns ≠ []) : (linked ns).root? = some 0 := by
  simp [root?, linked_isEmpty, hne]

theorem linked_parent? (ns : List Node) (i : Nat) :
    (linked ns).parent? i = (levelsOf ns).parent? i := by
  cases hi : ns[i]? with
  | none => simp [parent?, linked_get?, Levels.parent?, hi]
  | some node => simp [parent?, linked_get?, hi, Levels.link]

theorem linked_children (hi : i < ns.length) :
    (linked ns).children i = ((levelsOf ns).children i).toArray := by
  simp [children_eq, linked_get?, hi, Levels.link]

end Tree

namespace Builder

open Levels PpiDump.Tree

theorem link_snoc {ls : Levels} {l p : Nat} (hi : i < ls.length)
    (hp : parent? (ls ++ [l]) ls.length = some p) (x : Node) :
    Levels.link (ls ++ [l]) i x =
      { ls.link i x with
        children := if p = i then (ls.link i x).children.push ls.length else (ls.link i x).children
        nextSibling :=
          if (children ls p).getLast? = some i then some ls.length else (ls.link i x).nextSibling
        next := if i + 1 = ls.length then some ls.length else (ls.link i x).next } := by
  have hchildren : (children (ls ++ [l]) i).toArray =
      if p = i then (children ls i).toArray.push ls.length else (children ls i).toArray := by
    rw [children_snoc, hp]
    split <;> simp_all
  have hnext : (if i + 1 < (ls ++ [l]).length then some (i + 1) else none) =
      if i + 1 = ls.length then some ls.length
      else if i + 1 < ls.length then some (i + 1) else none := by
    have hlt : i + 1 < (ls ++ [l]).length := by simpa using hi
    rw [if_pos hlt]
    split
    · simp_all
    · rw [if_pos (by omega)]
  simp only [link, parent?_snoc hi, prevSibling?_snoc hi, nextSibling?_snoc hi hp, hchildren, hnext]

theorem link_snoc_length {ls : Levels} (hs : Stepped (ls ++ [node.level])) (hb : node.bare = node) :
    Levels.link (ls ++ [node.level]) ls.length node =
      { node with
        root := 0
        parent := parent? (ls ++ [node.level]) ls.length
        prevSibling :=
          (parent? (ls ++ [node.level]) ls.length).bind fun p ↦ (children ls p).getLast?
        prev := if ls.length = 0 then none else some (ls.length - 1) } := by
  have hchildren : children (ls ++ [node.level]) ls.length = [] := by
    refine List.filter_eq_nil_iff.mpr fun i hi hp ↦ ?_
    have := hs.parent?_lt (of_decide_eq_true hp)
    simp at hi
    omega
  have hprev : prevSibling? (ls ++ [node.level]) ls.length =
      (parent? (ls ++ [node.level]) ls.length).bind fun p ↦ (children ls p).getLast? := by
    cases hp : parent? (ls ++ [node.level]) ls.length with
    | none => simp [prevSibling?, siblings, hp]
    | some p => exact prevSibling?_snoc_length hp
  have hnext : ¬ls.length + 1 < (ls ++ [node.level]).length := by simp
  rw [link, hchildren, hprev, nextSibling?_snoc_length, if_neg hnext, ← hb]
  rfl

theorem bind_linked_children {l : Nat} (hs : Stepped (levelsOf ns ++ [l])) :
    ((parent? (levelsOf ns ++ [l]) ns.length).bind fun p ↦ ((linked ns).children p).back?) =
      (parent? (levelsOf ns ++ [l]) ns.length).bind fun p ↦
        (children (levelsOf ns) p).getLast? := by
  refine Option.bind_congr fun p hp ↦ ?_
  rw [linked_children (hs.parent?_lt hp), List.back?_toArray]

theorem bind_children_ne (ls : Levels) (p? : Option Nat) :
    (p?.bind fun p ↦ (children ls p).getLast?) ≠ some ls.length := by
  intro h
  obtain ⟨p, -, hp⟩ := Option.bind_eq_some_iff.mp h
  exact Nat.lt_irrefl _ (mem_children.mp (List.mem_of_getLast? hp)).1

theorem attach_linked (hb : node.bare = node) (hs : Stepped (levelsOf (ns ++ [node]))) :
    attach (linked ns) (Cursor.facing (levelsOf ns) node.level) node = linked (ns ++ [node]) := by
  have hls := levelsOf_snoc ns node
  have hlen : (levelsOf ns).length = ns.length := List.length_map _
  rw [hls] at hs
  refine ext_get? fun i ↦ ?_
  simp only [attach, get?_modify?, get?_push, linked_size, linked_get?, linked_root?, hls, hlen,
    Cursor.facing, Cursor.after_last, bind_linked_children hs]
  rcases Nat.lt_trichotomy i ns.length with hi | rfl | hi
  · obtain ⟨p, hp⟩ : ∃ p, parent? (levelsOf ns ++ [node.level]) ns.length = some p := by
      refine Option.ne_none_iff_exists'.mp fun hnone ↦ ?_
      have := (hs.parent?_eq_none_iff (l := node.level) (by simp)).mp hnone
      omega
    have hlink := link_snoc (i := i) (by rwa [hlen]) (hlen.symm ▸ hp) ns[i]
    have hlast : (if ns.length = 0 then none else some (ns.length - 1)) = some i ↔
        i + 1 = ns.length := by
      split <;> simp <;> omega
    simp only [List.getElem?_append_left hi, List.getElem?_eq_getElem hi, Option.map_some, hlink,
      hp, hlen, hi.ne, if_false, hlast, Option.bind_some, Option.some.injEq]
    split_ifs <;> rfl
  · have hlink := hlen ▸ link_snoc_length hs hb
    have hparent : parent? (levelsOf ns ++ [node.level]) ns.length ≠ some ns.length := fun hp ↦
      Nat.lt_irrefl _ (hs.parent?_lt hp)
    have hsibling := hlen ▸ bind_children_ne (levelsOf ns)
      (parent? (levelsOf ns ++ [node.level]) ns.length)
    have hlast : (if ns.length = 0 then none else some (ns.length - 1)) ≠ some ns.length := by
      split <;> simp
      omega
    rw [if_neg hlast, if_neg hsibling, if_neg hparent, if_pos rfl]
    simp [hlink]
  · have hlt : (ns ++ [node]).length ≤ i := by
      rw [List.length_append, List.length_singleton]
      exact hi
    rw [List.getElem?_eq_none hi.le, List.getElem?_eq_none hlt]
    simp [hi.ne']

end Builder

end PpiDump
