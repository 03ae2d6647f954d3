import PpiDump.Proofs.Export
import PpiDump.Proofs.Traversal
import PpiDump.Reviser

namespace PpiDump

variable {σ : Type} {t : Tree}

namespace Reviser

/-- What a call adds to a result that is put together. -/
def answer (tr : Reviser σ) (s : σ) (call : Call) : Text :=
  match call.method with
  | .ahead => tr.ahead s call.document call.handle
  | .behind => tr.behind s call.document call.handle
  | .analyze | .generate => []

/-- The nodes that are asked for their own texts, one call after the other. -/
def asked (calls : List Call) : List Handle :=
  (calls.filter fun call ↦ call.method = .ahead).map Call.handle

theorem asked_append (calls calls' : List Call) :
    asked (calls ++ calls') = asked calls ++ asked calls' := by
  rw [asked, List.filter_append, List.map_append]
  rfl

end Reviser

namespace Branch

open Reviser (asked asked_append)

mutual

theorem wrap_eq_calls (tr : Reviser σ) (s : σ) (d : Document) : ∀ b : Branch,
    b.wrap (tr.ahead s d) (tr.behind s d) = (b.calls d).flatMap (tr.answer s)
  | node h bs => by
    rw [wrap, calls, wrapAll_eq_calls tr s d bs, List.cons_append, List.flatMap_cons,
      List.flatMap_append, List.flatMap_singleton]
    rfl

theorem wrapAll_eq_calls (tr : Reviser σ) (s : σ) (d : Document) : ∀ bs : List Branch,
    wrapAll (tr.ahead s d) (tr.behind s d) bs = (allCalls d bs).flatMap (tr.answer s)
  | [] => rfl
  | b :: bs => by
    rw [wrapAll, allCalls, wrap_eq_calls tr s d b, wrapAll_eq_calls tr s d bs, List.flatMap_append]

end

mutual

theorem asked_calls (d : Document) : ∀ b : Branch, asked (b.calls d) = b.preorder
  | node h bs => by
    rw [calls, List.cons_append, ← List.singleton_append, asked_append, asked_append,
      asked_allCalls d bs, preorder]
    exact congrArg (h :: ·) (List.append_nil _)

theorem asked_allCalls (d : Document) : ∀ bs : List Branch, asked (allCalls d bs) = preorderAll bs
  | [] => rfl
  | b :: bs => by
    rw [allCalls, asked_append, asked_calls d b, asked_allCalls d bs, preorderAll]

end

end Branch

namespace Account

mutual

def preorder : Account → List Account
  | node id kind level line payload below =>
    node id kind level line payload below :: preorderAll below

def preorderAll : List Account → List Account
  | [] => []
  | a :: as => preorder a ++ preorderAll as

end

variable {a : Account}

theorem forall₂_preorderAll {below : Handle → Account} {bs : List Branch}
    (hbs : ∀ b ∈ bs, List.Forall₂ (Of t) b.preorder (below b.handle).preorder) :
    List.Forall₂ (Of t) (Branch.preorderAll bs)
      (preorderAll ((bs.map Branch.handle).map below)) := by
  induction bs with
  | nil => exact .nil
  | cons b bs ih =>
    have hrest := ih fun b' hb' ↦ hbs b' (List.mem_cons_of_mem b hb')
    exact List.rel_append (hbs b List.mem_cons_self) hrest

theorem Of.forall₂_preorder {b : Branch} (hb : b.Unfolds t) (ha : Of t b.handle a) :
    List.Forall₂ (Of t) b.preorder a.preorder := by
  induction hb generalizing a with
  | @node h bs node hget hchildren _ ih =>
    have hself := ha
    cases ha with
    | @node _ node' below hget' hbelow =>
      obtain rfl : node = node' := Option.some.inj (hget.symm.trans hget')
      refine .cons hself ?_
      rw [hchildren] at hbelow ⊢
      refine forall₂_preorderAll fun b hb ↦ ih b hb ?_
      exact hbelow b.handle (List.mem_map_of_mem hb)

end Account

namespace Tree

variable {b : Branch}

/-- The nodes of an unfolding in tree order are what every way over the tree comes to. -/
structure OneOrder (t : Tree) (b : Branch) : Prop where
  walked : Yields t.visit t.root?.toList b.preorder ∧ t.preorder = b.preorder
  assembled : ∀ {σ : Type} (c : Converter σ) (tr : Reviser σ) (notes : Notes),
    let o := c.assembleBy tr b.handle ⟨t, notes⟩
    Reviser.asked o.calls = b.preorder ∧
      o.result = .ok ⟨openTag ++ o.calls.flatMap (tr.answer c.state), c.stats⟩
  converted : ∀ {σ : Type} (c : Converter σ) (notes : Notes), c.assemble ⟨t, notes⟩ =
    (c.assembleBy c.translator.reviser b.handle ⟨t, notes⟩).result.map Conversion.output
  exported : ∃ a : Account, t.exportText = .ok a.toJson.write ∧
    List.Forall₂ (Account.Of t) b.preorder a.preorder
  outlined : ∀ text, t.outline = .ok text → text = b.preorder.flatMap t.outlineAt

theorem one_order (hroot : t.root? = some b.handle) (hb : b.Unfolds t) : t.OneOrder b where
  walked := preorder_of_unfolds hroot hb
  assembled c tr notes := by
    simp only [Converter.assembleBy, unfolding?_of_unfolds hb]
    refine ⟨b.asked_calls _, ?_⟩
    rw [b.wrap_eq_calls]
  converted c notes := by
    simp only [Converter.assemble, Converter.assembleBy, hroot, unfolding?_of_unfolds hb]
    rfl
  exported := by
    obtain ⟨a, ha⟩ := Account.exists_of_unfolds hb
    exact ⟨a, exportText_of_account hroot ha, ha.forall₂_preorder hb⟩
  outlined text htext := by
    rw [outline_eq hroot hb] at htext
    cases hchecks : forM b.listings t.checkListing with
    | error e =>
      rw [hchecks] at htext
      cases htext
    | ok =>
      rw [hchecks] at htext
      exact (Except.ok.inj htext).symm

theorem one_order_twice :
    let root : Node := {
      id := 1, kind := .document .whole, level := 4, line := 1, payload := .empty
      children := #[2, 1, 2], next := some 3 }
    let other : Node := {
      id := 2, kind := .bracket .list, level := 0, line := 1, payload := .delimiters '(' ')'
      parent := some 0, next := some 0 }
    let twin : Node := {
      id := 3, kind := .node, level := 1, line := 1, payload := .empty
      parent := some 0, children := #[3, 3] }
    let word : Node := {
      id := 3, kind := .token .word, level := 2, line := 1, payload := .text ['a']
      parent := some 2, next := some 9 }
    let leaf : Branch := .node 3 []
    let branch : Branch := .node 2 [leaf, leaf]
    let b : Branch := .node 0 [branch, .node 1 [], branch]
    let t : Tree := ⟨#[root, other, twin, word]⟩
    t.root? = some b.handle ∧ b.Unfolds t ∧ t.OneOrder b ∧
      b.preorder = [0, 2, 3, 3, 1, 2, 3, 3] ∧
      t.outline.map Text.lines = .ok ["1         PpiDocument".toList, "3   PpiNode".toList,
        "3     PpiTokenWord 'a'".toList, "3     PpiTokenWord 'a'".toList,
        "2 PpiStructureList ( ... )".toList, "3   PpiNode".toList,
        "3     PpiTokenWord 'a'".toList, "3     PpiTokenWord 'a'".toList] := by
  intro root other twin word leaf branch b t
  have hleaf : leaf.Unfolds t := .node (show t.get? 3 = some word from rfl) rfl (by simp)
  have hbranch : branch.Unfolds t :=
    .node (show t.get? 2 = some twin from rfl) rfl (by simp [hleaf])
  have hother : (Branch.node 1 []).Unfolds t :=
    .node (show t.get? 1 = some other from rfl) rfl (by simp)
  have hb : b.Unfolds t :=
    .node (show t.get? 0 = some root from rfl) rfl (by simp [hbranch, hother])
  exact ⟨rfl, hb, one_order rfl hb, rfl, by decide +kernel⟩

end Tree

end PpiDump
