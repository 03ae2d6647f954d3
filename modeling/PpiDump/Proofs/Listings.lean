import Mathlib.Data.List.Basic
import PpiDump.Proofs.Linked
import PpiDump.Proofs.Unfolding
import PpiDump.Tree.Outline

namespace PpiDump

/-- A child as a node lists it. -/
structure Listing where
  lister : Handle
  child : Handle
  deriving DecidableEq, Repr

namespace Branch

mutual

def listings : Branch → List Listing
  | node h bs => listingsOf h bs

/-- The listings of what a node lists, and of all below that. -/
def listingsOf (h : Handle) : List Branch → List Listing
  | [] => []
  | b :: bs => ⟨h, b.handle⟩ :: (listings b ++ listingsOf h bs)

end

mutual

theorem preorder_eq_listings : ∀ b : Branch,
    b.preorder = b.handle :: b.listings.map Listing.child
  | node h bs => by rw [preorder, handle, listings, preorderAll_eq_listings h bs]

theorem preorderAll_eq_listings (h : Handle) : ∀ bs : List Branch,
    preorderAll bs = (listingsOf h bs).map Listing.child
  | [] => rfl
  | b :: bs => by
    rw [preorderAll, preorder_eq_listings b, preorderAll_eq_listings h bs, listingsOf,
      List.map_cons, List.map_append, List.cons_append]

end

theorem mem_listingsOf {h : Handle} {bs : List Branch} {l : Listing} (hl : l ∈ listingsOf h bs) :
    ∃ b ∈ bs, l = ⟨h, b.handle⟩ ∨ l ∈ b.listings := by
  induction bs with
  | nil => cases hl
  | cons b bs ih =>
    rw [listingsOf, List.mem_cons, List.mem_append] at hl
    rcases hl with hl | hl | hl
    · exact ⟨b, List.mem_cons_self, .inl hl⟩
    · exact ⟨b, List.mem_cons_self, .inr hl⟩
    · obtain ⟨b', hb', hl⟩ := ih hl
      exact ⟨b', List.mem_cons_of_mem b hb', hl⟩

variable {t : Tree} {b : Branch} {l : Listing}

theorem Unfolds.of_listing (hb : b.Unfolds t) (hl : l ∈ b.listings) :
    ∃ (lister : Node) (b' : Branch), t.get? l.lister = some lister ∧
      l.child ∈ lister.children.toList ∧ b'.Unfolds t ∧ b'.handle = l.child ∧
      sizeOf b' < sizeOf b := by
  induction hb with
  | @node h bs node hget hchildren hbelow ih =>
    obtain ⟨b', hb', hl⟩ := mem_listingsOf hl
    have hlt : sizeOf b' < sizeOf (Branch.node h bs) := by
      have := List.sizeOf_lt_of_mem hb'
      simp only [Branch.node.sizeOf_spec]
      omega
    rcases hl with rfl | hl
    · refine ⟨node, b', hget, ?_, hbelow b' hb', rfl, hlt⟩
      rw [hchildren]
      exact List.mem_map_of_mem hb'
    · obtain ⟨lister, b'', hlister, hmem, hunfolds, hhandle, hlt'⟩ := ih b' hb' hl
      exact ⟨lister, b'', hlister, hmem, hunfolds, hhandle, Nat.lt_trans hlt' hlt⟩

theorem Unfolds.exists_get? (hb : b.Unfolds t) : ∃ node, t.get? b.handle = some node := by
  cases hb with
  | node hget => exact ⟨_, hget⟩

theorem Unfolds.congr {t' : Tree} (hb : b.Unfolds t)
    (h : ∀ i node, t.get? i = some node →
      ∃ node', t'.get? i = some node' ∧ node'.children = node.children) : b.Unfolds t' := by
  induction hb with
  | @node i bs node hget hchildren _ ih =>
    obtain ⟨node', hget', hsame⟩ := h i node hget
    rw [← hsame] at hchildren
    exact .node hget' hchildren ih

theorem Unfolds.child_ne (hb : b.Unfolds t) (hl : l ∈ b.listings) : l.child ≠ b.handle := by
  obtain ⟨-, b', -, -, hunfolds, hhandle, hlt⟩ := hb.of_listing hl
  -- A node has one branch only, and the one below the listing is smaller than the whole.
  have hup : ∀ a ∈ [b.handle], ∃ c, Unfolds t c ∧ c.handle = a ∧ sizeOf b' < sizeOf c := by
    intro a ha
    obtain rfl := List.mem_singleton.mp ha
    exact ⟨b, hb, rfl, hlt⟩
  have hnot := hunfolds.handle_notMem hup
  rwa [hhandle, List.mem_singleton] at hnot

end Branch

namespace Tree

def outlineAt (t : Tree) (h : Handle) : Text := ((t.get? h).map Node.outline).getD []

def checkListing (t : Tree) (l : Listing) : Except Error Unit :=
  match t.get? l.lister, t.get? l.child with
  | some lister, some child => t.checkListed l.lister lister child
  | _, _ => .error .endless

/-- The child of a listing names the node that lists it as its parent. -/
def Confirms (t : Tree) (l : Listing) : Prop := t.parent? l.child = some l.lister

instance (t : Tree) : DecidablePred t.Confirms := fun l ↦
  inferInstanceAs (Decidable (t.parent? l.child = some l.lister))

variable {t : Tree} {b : Branch} {h : Handle} {depth : Nat} {l : Listing}

theorem unfoldTo_eq_some (hb : t.unfoldTo (depth + 1) h = some b) :
    ∃ node bs, t.get? h = some node ∧ node.children.toList.mapM (t.unfoldTo depth) = some bs ∧
      b = .node h bs := by
  rw [unfoldTo] at hb
  cases hget : t.get? h with
  | none =>
    rw [hget] at hb
    cases hb
  | some node =>
    rw [hget] at hb
    obtain ⟨bs, hbs, rfl⟩ := Option.map_eq_some_iff.mp hb
    exact ⟨node, bs, rfl, hbs, rfl⟩

theorem handle_of_unfoldTo (hb : t.unfoldTo depth h = some b) :
    b.handle = h ∧ ∃ node, t.get? h = some node := by
  cases depth with
  | zero => cases hb
  | succ depth =>
    obtain ⟨node, bs, hget, -, rfl⟩ := unfoldTo_eq_some hb
    exact ⟨rfl, node, hget⟩

theorem outline_children {node : Node} (hget : t.get? h = some node)
    (hdepth : ∀ c b, t.unfoldTo depth c = some b → t.outlineTo depth c = do
      forM b.listings t.checkListing
      return b.preorder.flatMap t.outlineAt)
    {cs : List Handle} {bs : List Branch} (hbs : cs.mapM (t.unfoldTo depth) = some bs) :
    (do
      let below ← cs.mapM fun c ↦ do
        match t.get? c with
        | none => .error .endless
        | some child =>
          t.checkListed h node child
          t.outlineTo depth c
      return below.flatten) = do
    forM (Branch.listingsOf h bs) t.checkListing
    return (Branch.preorderAll bs).flatMap t.outlineAt := by
  induction cs generalizing bs with
  | nil =>
    obtain rfl : [] = bs := Option.some.inj hbs
    rfl
  | cons c cs ih =>
    rw [List.mapM_cons] at hbs
    obtain ⟨b, hb, hbs⟩ := Option.bind_eq_some_iff.mp hbs
    obtain ⟨bs', hbs', hcons⟩ := Option.bind_eq_some_iff.mp hbs
    obtain rfl : b :: bs' = bs := Option.some.inj hcons
    obtain ⟨rfl, child, hchild⟩ := handle_of_unfoldTo hb
    have hcheck : t.checkListing ⟨h, b.handle⟩ = t.checkListed h node child := by
      simp only [checkListing, hget, hchild]
    have hrest := congrArg (· >>= fun text ↦ pure (b.preorder.flatMap t.outlineAt ++ text)) (ih hbs')
    simp only [bind_assoc, pure_bind] at hrest
    rw [List.mapM_cons, Branch.listingsOf, List.forM_cons, List.forM_append, Branch.preorderAll,
      List.flatMap_append, hcheck]
    simp only [hchild, hdepth _ b hb, bind_assoc, pure_bind, List.flatten_cons, hrest]

theorem outlineTo_eq (hb : t.unfoldTo depth h = some b) : t.outlineTo depth h = do
    forM b.listings t.checkListing
    return b.preorder.flatMap t.outlineAt := by
  induction depth generalizing h b with
  | zero => cases hb
  | succ depth ih =>
    obtain ⟨node, bs, hget, hbs, rfl⟩ := unfoldTo_eq_some hb
    have hself : t.outlineAt h = node.outline := by rw [outlineAt, hget]; rfl
    have hchildren := congrArg (· >>= fun text ↦ pure (node.outline ++ text))
      (outline_children hget (fun c b ↦ ih) hbs)
    simp only [bind_assoc, pure_bind] at hchildren
    simp only [outlineTo, hget, Branch.listings, Branch.preorder, List.flatMap_cons, hself]
    exact hchildren

theorem outline_eq (hroot : t.root? = some b.handle) (hb : b.Unfolds t) : t.outline = do
    forM b.listings t.checkListing
    return b.preorder.flatMap t.outlineAt := by
  rw [outline, hroot]
  exact outlineTo_eq (unfolding?_of_unfolds hb)

theorem forM_of_ok {α ε : Type} {f : α → Except ε Unit} {as : List α}
    (h : ∀ a ∈ as, f a = .ok ()) : forM as f = .ok () := by
  induction as with
  | nil => rfl
  | cons a as ih =>
    rw [List.forM_cons, h a List.mem_cons_self]
    exact ih fun a' ha' ↦ h a' (List.mem_cons_of_mem a ha')

theorem forM_of_first {α ε : Type} {f : α → Except ε Unit} {before after : List α} {a : α} {e : ε}
    (hbefore : ∀ a' ∈ before, f a' = .ok ()) (ha : f a = .error e) :
    forM (before ++ a :: after) f = .error e := by
  rw [List.forM_append, forM_of_ok hbefore, List.forM_cons, ha]
  rfl

theorem forM_congr_left {α ε : Type} {f g : α → Except ε Unit} {as : List α}
    (h : ∀ a ∈ as, f a = g a) : forM as f = forM as g := by
  induction as with
  | nil => rfl
  | cons a as ih =>
    rw [List.forM_cons, List.forM_cons, h a List.mem_cons_self,
      ih fun a' ha' ↦ h a' (List.mem_cons_of_mem a ha')]

theorem checkListing_of_confirms {lister : Node} (hlister : t.get? l.lister = some lister)
    (h : t.Confirms l) : t.checkListing l = .ok () := by
  obtain ⟨child, hchild, hparent⟩ := Option.bind_eq_some_iff.mp h
  simp only [checkListing, hlister, hchild, checkListed, if_pos hparent]

theorem checkListing_of_not_confirms {lister child : Node} (hlister : t.get? l.lister = some lister)
    (hchild : t.get? l.child = some child) (h : ¬t.Confirms l) :
    t.checkListing l = .error
      (.parentMismatch child.id lister.id ((child.parent.bind t.get?).map Node.id)) := by
  have hparent : child.parent ≠ some l.lister := by
    intro heq
    apply h
    rw [Confirms, parent?, hchild]
    exact heq
  simp only [checkListing, hlister, hchild, checkListed, if_neg hparent]

theorem checkListing_congr {t' : Tree} (hchild : t'.get? l.child = t.get? l.child)
    (hids : ∀ i, (t'.get? i).map Node.id = (t.get? i).map Node.id) :
    t'.checkListing l = t.checkListing l := by
  have hlister := hids l.lister
  unfold checkListing
  rw [hchild]
  cases hold : t.get? l.lister <;> cases hnew : t'.get? l.lister <;> rw [hold, hnew] at hlister
  case none.some => cases hlister
  case some.none => cases hlister
  case some.some lister lister' =>
    have hid : lister'.id = lister.id := Option.some.inj hlister
    cases t.get? l.child with
    | none => rfl
    | some child =>
      have hfound : (child.parent.bind t'.get?).map Node.id =
          (child.parent.bind t.get?).map Node.id := by
        cases child.parent with
        | none => rfl
        | some p => exact hids p
      simp only [checkListed, hid, hfound]

theorem outline_of_confirms (hroot : t.root? = some b.handle) (hb : b.Unfolds t)
    (h : ∀ l ∈ b.listings, t.Confirms l) : t.outline = .ok (b.preorder.flatMap t.outlineAt) := by
  have hchecks : ∀ l ∈ b.listings, t.checkListing l = .ok () := by
    intro l hl
    obtain ⟨lister, -, hlister, -⟩ := hb.of_listing hl
    exact checkListing_of_confirms hlister (h l hl)
  rw [outline_eq hroot hb, forM_of_ok hchecks]
  rfl

theorem outline_of_first {before after : List Listing} (hroot : t.root? = some b.handle)
    (hb : b.Unfolds t) (hsplit : b.listings = before ++ l :: after)
    (hbefore : ∀ l' ∈ before, t.Confirms l') (hl : ¬t.Confirms l) :
    ∃ lister child, t.get? l.lister = some lister ∧ t.get? l.child = some child ∧
      t.outline = .error
        (.parentMismatch child.id lister.id ((child.parent.bind t.get?).map Node.id)) := by
  have hmem : ∀ l' ∈ before ++ l :: after, l' ∈ b.listings := fun l' hl' ↦ hsplit ▸ hl'
  obtain ⟨lister, b', hlister, -, hunfolds, hhandle, -⟩ := hb.of_listing (hmem l (by simp))
  obtain ⟨child, hchild⟩ := hunfolds.exists_get?
  rw [hhandle] at hchild
  have hchecks : ∀ l' ∈ before, t.checkListing l' = .ok () := by
    intro l' hl'
    obtain ⟨lister', -, hlister', -⟩ := hb.of_listing (hmem l' (List.mem_append_left _ hl'))
    exact checkListing_of_confirms hlister' (hbefore l' hl')
  refine ⟨lister, child, hlister, hchild, ?_⟩
  rw [outline_eq hroot hb, hsplit,
    forM_of_first hchecks (checkListing_of_not_confirms hlister hchild hl)]
  rfl

theorem outline_reparent (hroot : t.root? = some b.handle) (hb : b.Unfolds t)
    (p? : Option Handle) :
    (t.modify b.handle fun node ↦ { node with parent := p? }).outline = t.outline := by
  set t' := t.modify b.handle fun node ↦ { node with parent := p? }
  have hget (i : Handle) : t'.get? i = if some b.handle = some i then
      (t.get? i).map fun node ↦ { node with parent := p? } else t.get? i :=
    get?_modify? t (some b.handle) _ i
  have hids (i : Handle) : (t'.get? i).map Node.id = (t.get? i).map Node.id := by
    rw [hget]
    split
    · rw [Option.map_map]
      rfl
    · rfl
  have hlines (i : Handle) : t'.outlineAt i = t.outlineAt i := by
    rw [outlineAt, outlineAt, hget]
    split
    · rw [Option.map_map]
      rfl
    · rfl
  have hunfolds : b.Unfolds t' := by
    refine hb.congr fun i node hnode ↦ ?_
    rw [hget, hnode]
    split
    · exact ⟨_, rfl, rfl⟩
    · exact ⟨_, rfl, rfl⟩
  have hroot' : t'.root? = some b.handle := by
    have hsize : t'.isEmpty = t.isEmpty := by simp [t', isEmpty, modify, Array.isEmpty]
    rw [root?, hsize]
    exact hroot
  have hchecks : ∀ l ∈ b.listings, t'.checkListing l = t.checkListing l := by
    intro l hl
    refine checkListing_congr ?_ hids
    rw [hget, if_neg]
    exact fun heq ↦ hb.child_ne hl (Option.some.inj heq).symm
  rw [outline_eq hroot' hunfolds, outline_eq hroot hb, forM_congr_left hchecks, funext hlines]

/-- What a link leads to: nothing, or a node, which is told by its id. -/
inductive LeadsTo (t : Tree) : Option Handle → Option Nat → Prop
  | nothing : LeadsTo t none none
  | node {p : Handle} {node : Node} (hget : t.get? p = some node) :
      LeadsTo t (some p) (some node.id)

/-- The outline of a tree checks each listing of an unfolding, and these in tree order. -/
structure Checked (t : Tree) (b : Branch) : Prop where
  order : b.preorder = b.handle :: b.listings.map Listing.child
  accepts : (∃ text, t.outline = .ok text) ↔ ∀ l ∈ b.listings, t.Confirms l
  refuses : ¬(∀ l ∈ b.listings, t.Confirms l) →
    ∃ before l after lister child found, b.listings = before ++ l :: after ∧
      (∀ l' ∈ before, t.Confirms l') ∧ ¬t.Confirms l ∧ t.get? l.lister = some lister ∧
      t.get? l.child = some child ∧ t.LeadsTo child.parent found ∧
      t.outline = .error (.parentMismatch child.id lister.id found)
  rootless : ∀ p?, (t.modify b.handle fun node ↦ { node with parent := p? }).outline = t.outline

theorem exists_first {ls : List Listing} (h : ¬∀ l ∈ ls, t.Confirms l) :
    ∃ before l after, ls = before ++ l :: after ∧ (∀ l' ∈ before, t.Confirms l') ∧
      ¬t.Confirms l := by
  cases hfind : ls.find? fun l ↦ ¬t.Confirms l with
  | none =>
    have hall := List.find?_eq_none.mp hfind
    exact absurd (fun l hl ↦ by simpa using hall l hl) h
  | some l =>
    obtain ⟨hl, before, after, hsplit, hbefore⟩ := List.find?_eq_some_iff_append.mp hfind
    exact ⟨before, l, after, hsplit, by simpa using hbefore, by simpa using hl⟩

theorem leadsTo_of_bounded {link : Option Handle} (h : ∀ p ∈ link, p < t.size) :
    t.LeadsTo link ((link.bind t.get?).map Node.id) := by
  cases link with
  | none => exact .nothing
  | some p =>
    have hp : p < t.nodes.size := h p rfl
    have hget : t.get? p = some t.nodes[p] := Array.getElem?_eq_getElem hp
    rw [Option.bind_some, hget]
    exact .node hget

theorem outline_checks (hroot : t.root? = some b.handle) (hb : b.Unfolds t)
    (hparents : ∀ node ∈ t.nodes, ∀ p ∈ node.parent, p < t.size) : t.Checked b where
  order := b.preorder_eq_listings
  accepts := by
    refine ⟨fun ⟨text, htext⟩ ↦ ?_, fun h ↦ ⟨_, outline_of_confirms hroot hb h⟩⟩
    by_contra h
    obtain ⟨before, l, after, hsplit, hbefore, hl⟩ := exists_first h
    obtain ⟨lister, child, -, -, herror⟩ := outline_of_first hroot hb hsplit hbefore hl
    cases htext.symm.trans herror
  refuses h := by
    obtain ⟨before, l, after, hsplit, hbefore, hl⟩ := exists_first h
    obtain ⟨lister, child, hlister, hchild, herror⟩ := outline_of_first hroot hb hsplit hbefore hl
    have hfound := leadsTo_of_bounded (hparents child (Array.mem_of_getElem? hchild))
    exact ⟨before, l, after, lister, child, _, hsplit, hbefore, hl, hlister, hchild, hfound, herror⟩
  rootless := outline_reparent hroot hb

theorem outline_checks_thrice :
    let root : Node := {
      id := 1, kind := .document .whole, level := 0, line := 1, payload := .empty
      parent := some 3, children := #[1, 2] }
    let lister : Node := {
      id := 2, kind := .node, level := 1, line := 1, payload := .empty
      parent := some 0, children := #[3, 3] }
    let other : Node := {
      id := 7, kind := .node, level := 5, line := 1, payload := .empty
      parent := some 0, children := #[3] }
    let child : Node := {
      id := 4, kind := .token .word, level := 2, line := 1, payload := .text ['a']
      parent := some 1 }
    let leaf : Branch := .node 3 []
    let b : Branch := .node 0 [.node 1 [leaf, leaf], .node 2 [leaf]]
    let t : Tree := ⟨#[root, lister, other, child]⟩
    t.root? = some b.handle ∧ b.Unfolds t ∧
      (∀ node ∈ t.nodes, ∀ p ∈ node.parent, p < t.size) ∧ t.Checked b ∧
      b.listings = [⟨0, 1⟩, ⟨1, 3⟩, ⟨1, 3⟩, ⟨0, 2⟩, ⟨2, 3⟩] ∧
      t.outline = .error (.parentMismatch 4 7 (some 2)) := by
  intro root lister other child leaf b t
  have hleaf : leaf.Unfolds t := .node (show t.get? 3 = some child from rfl) rfl (by simp)
  have hb : b.Unfolds t := by
    refine .node (show t.get? 0 = some root from rfl) rfl fun b' hb' ↦ ?_
    rcases List.mem_cons.mp hb' with rfl | hb'
    · exact .node (show t.get? 1 = some lister from rfl) rfl (by simp [hleaf])
    · obtain rfl := List.mem_singleton.mp hb'
      exact .node (show t.get? 2 = some other from rfl) rfl (by simp [hleaf])
  have hparents : ∀ node ∈ t.nodes, ∀ p ∈ node.parent, p < t.size := by decide
  exact ⟨rfl, hb, hparents, outline_checks rfl hb hparents, rfl, by decide +kernel⟩

end Tree

end PpiDump
