import PpiDump.Proofs.Outline
import PpiDump.Proofs.Reading
import PpiDump.Proofs.Traversal
import PpiDump.Translator.Probe
import PpiDump.World

namespace PpiDump

open Translator (Call)
open Translator.Probe (idAt)

variable {σ ω α : Type} {t : Tree}

def Draft.watched (d : Draft σ) (calls : List Call) : Draft (σ × List Call) :=
  ⟨(d.state, calls), d.notes⟩

namespace Visit

/-- Keeps the calls that are made beside the state. -/
def watched (visit : Visit σ) (call : Nat → Call) : Visit (σ × List Call) := fun t h d ↦
  let visited := visit t h ⟨d.state.1, d.notes⟩
  (visited.1.watched (d.state.2 ++ [call (idAt t h)]), visited.2)

/-- A pass over the first `n` nodes: how many it visits, what it leaves, and the error of its last
visit if that one fails. -/
inductive Pass (visit : Visit σ) (t : Tree) (d : Draft σ) (n : Nat) :
    Nat → Draft σ → Option Error → Prop
  | through {d' : Draft σ} (hrun : visit.run t (List.range n) d = (d', none)) :
      Pass visit t d n n d' none
  | stopped {h : Handle} {d₁ d' : Draft σ} {e : Error} (hlt : h < n)
      (hbefore : visit.run t (List.range h) d = (d₁, none)) (hfails : visit t h d₁ = (d', some e)) :
      Pass visit t d n (h + 1) d' (some e)

variable {visit : Visit σ} {call : Nat → Call} {hs hs' : List Handle} {d d' : Draft σ}
  {n k : Nat} {e : Error} {failed : Option Error}

theorem Pass.le (h : visit.Pass t d n k d' failed) : k ≤ n := by
  cases h with
  | through => exact le_rfl
  | stopped hlt => exact hlt

theorem Pass.eq_of_none (h : visit.Pass t d n k d' none) : k = n := by
  cases h with
  | through => rfl

theorem run_append_ok (h : visit.run t hs d = (d', none)) :
    visit.run t (hs ++ hs') d = visit.run t hs' d' := by
  induction hs generalizing d with
  | nil =>
    cases h
    rfl
  | cons handle hs ih =>
    simp only [List.cons_append, run] at h ⊢
    split at h
    · exact ih h
    · cases h

theorem run_append_error (h : visit.run t hs d = (d', some e)) :
    visit.run t (hs ++ hs') d = (d', some e) := by
  induction hs generalizing d with
  | nil => cases h
  | cons handle hs ih =>
    simp only [List.cons_append, run] at h ⊢
    split at h
    · exact ih h
    · exact h

theorem run_singleton (visit : Visit σ) (t : Tree) (h : Handle) (d : Draft σ) :
    visit.run t [h] d = visit t h d := by
  rcases hvisit : visit t h d with ⟨d', failed⟩
  cases failed <;> simp [run, hvisit]

theorem Pass.run_eq (h : visit.Pass t d n k d' failed) :
    visit.run t (List.range n) d = (d', failed) := by
  cases h with
  | through hrun => exact hrun
  | @stopped h d₁ d' e hlt hbefore hfails =>
    induction n, hlt using Nat.le_induction with
    | base =>
      rw [List.range_succ, run_append_ok hbefore, run_singleton, hfails]
    | succ n _ ih =>
      rw [List.range_succ]
      exact run_append_error ih

theorem Pass.unique {k' : Nat} {d'' : Draft σ} {failed' : Option Error}
    (h : visit.Pass t d n k d' failed) (h' : visit.Pass t d n k' d'' failed') :
    k = k' ∧ d' = d'' ∧ failed = failed' := by
  obtain ⟨rfl, rfl⟩ := Prod.mk.inj (h.run_eq.symm.trans h'.run_eq)
  refine ⟨?_, rfl, rfl⟩
  cases h with
  | through => exact h'.eq_of_none.symm
  | @stopped i _ _ _ hlt hbefore hfails =>
    cases h' with
    | @stopped j _ _ _ hlt' hbefore' hfails' =>
      -- A pass that stops earlier stops there for any later end as well.
      rcases Nat.lt_trichotomy i j with hij | rfl | hji
      · cases hbefore'.symm.trans (Pass.stopped hij hbefore hfails).run_eq
      · rfl
      · cases hbefore.symm.trans (Pass.stopped hji hbefore' hfails').run_eq

theorem watched_watched (visit : Visit σ) (call : Nat → Call) (h : Handle) (d : Draft σ)
    (calls : List Call) : visit.watched call t h (d.watched calls) =
      ((visit t h d).1.watched (calls ++ [call (idAt t h)]), (visit t h d).2) :=
  rfl

theorem run_pass (visit : Visit σ) (call : Nat → Call) (d : Draft σ) (calls : List Call)
    (hids : ∀ h, h < n → idAt t h = h + 1) :
    ∃ k d' failed, visit.Pass t d n k d' failed ∧ visit.run t (List.range n) d = (d', failed) ∧
      (visit.watched call).run t (List.range n) (d.watched calls) =
        (d'.watched (calls ++ (List.range' 1 k).map call), failed) := by
  induction n with
  | zero => exact ⟨0, d, none, .through rfl, rfl, by simp [run]⟩
  | succ n ih =>
    obtain ⟨k, d', failed, hpass, hrun, hwatched⟩ := ih fun h hh ↦ hids h (Nat.lt_succ_of_lt hh)
    rw [List.range_succ]
    cases hpass with
    | stopped hlt hbefore hfails =>
      have hpass := Pass.stopped (Nat.lt_succ_of_lt hlt) hbefore hfails
      exact ⟨_, _, _, hpass, run_append_error hrun, run_append_error hwatched⟩
    | through =>
      have hnext : (visit.watched call).run t [n] (d'.watched (calls ++ (List.range' 1 n).map call)) =
          ((visit t n d').1.watched (calls ++ (List.range' 1 (n + 1)).map call),
            (visit t n d').2) := by
        rw [run_singleton, watched_watched, hids n (Nat.lt_succ_self n),
          List.range'_1_concat, List.map_append, List.append_assoc, Nat.add_comm 1 n]
        rfl
      rw [run_append_ok hrun, run_append_ok hwatched, run_singleton, hnext]
      rcases hvisit : visit t n d' with ⟨d'', failed⟩
      cases failed with
      | none =>
        have hthrough : visit.run t (List.range (n + 1)) d = (d'', none) := by
          rw [List.range_succ, run_append_ok hrun, run_singleton, hvisit]
        exact ⟨n + 1, d'', none, .through hthrough, rfl, rfl⟩
      | some e =>
        exact ⟨n + 1, d'', some e, .stopped (Nat.lt_succ_self n) hrun hvisit, rfl, rfl⟩

end Visit

/-- What the node at a handle comes to: the text ahead of its children, what each of the children
comes to in order, and the text behind them. -/
inductive Assembles (t : Tree) (ahead behind : Handle → Text) : Handle → Text → Prop
  | node {h : Handle} {node : Node} {below : Handle → Text} (hget : t.get? h = some node)
      (hbelow : ∀ c ∈ node.children.toList, Assembles t ahead behind c (below c)) :
      Assembles t ahead behind h (ahead h ++ node.children.toList.flatMap below ++ behind h)

theorem Assembles.unique {ahead behind : Handle → Text} {h : Handle} {text text' : Text}
    (ht : Assembles t ahead behind h text) (ht' : Assembles t ahead behind h text') :
    text = text' := by
  induction ht generalizing text' with
  | @node h node below hget hbelow ih =>
    cases ht' with
    | @node _ node' below' hget' hbelow' =>
      obtain rfl : node = node' := Option.some.inj (hget.symm.trans hget')
      have hsame : node.children.toList.flatMap below = node.children.toList.flatMap below' :=
        List.flatMap_congr fun c hc ↦ ih c hc (hbelow' c hc)
      rw [hsame]

theorem Branch.wrapAll_eq (ahead behind : Handle → Text) (bs : List Branch) :
    wrapAll ahead behind bs = bs.flatMap (wrap ahead behind) := by
  induction bs with
  | nil => rfl
  | cons b bs ih => rw [wrapAll, ih, List.flatMap_cons]

theorem Branch.Unfolds.assembles {b : Branch} (hb : b.Unfolds t) (ahead behind : Handle → Text) :
    Assembles t ahead behind b.handle (b.wrap ahead behind) := by
  induction hb with
  | @node h bs node hget hchildren hbelow ih =>
    -- What a child comes to can be told by its handle, for there is only one branch of that handle.
    let below (c : Handle) : Text := (t.unfolding? c).elim [] (wrap ahead behind)
    have hwrap : ∀ b ∈ bs, below b.handle = b.wrap ahead behind := by
      intro b hb
      simp only [below, Tree.unfolding?_of_unfolds (hbelow b hb), Option.elim]
    have hall : node.children.toList.flatMap below = wrapAll ahead behind bs := by
      rw [hchildren, List.flatMap_map, wrapAll_eq]
      exact List.flatMap_congr hwrap
    rw [wrap, ← hall, ← List.append_assoc]
    apply Assembles.node hget
    intro c hc
    rw [hchildren] at hc
    obtain ⟨b, hb, rfl⟩ := List.mem_map.mp hc
    rw [hwrap b hb]
    exact ih b hb

/-- Whether the outline is where it is asked for, and what the surroundings then are. -/
inductive Outlined (host : Host (StateM ω)) (options : Options) (t : Tree) (w : ω) :
    Bool → ω → Prop
  | unasked (hpath : options.debugDump = none) : Outlined host options t w true w
  | asked {path outline : Text} {written : Bool} {w' : ω} (hpath : options.debugDump = some path)
      (houtline : t.outline = .ok outline)
      (hwrite : (host.writeFile path (Utf8.encode outline)).run w = (written, w')) :
      Outlined host options t w written w'

theorem Outlined.unique {host : Host (StateM ω)} {options : Options} {w w' w'' : ω}
    {written written' : Bool} (h : Outlined host options t w written w')
    (h' : Outlined host options t w written' w'') : written = written' ∧ w' = w'' := by
  cases h with
  | unasked hpath =>
    cases h' with
    | unasked => exact ⟨rfl, rfl⟩
    | asked hpath' => cases hpath.symm.trans hpath'
  | asked hpath houtline hwrite =>
    cases h' with
    | unasked hpath' => cases hpath.symm.trans hpath'
    | asked hpath' houtline' hwrite' =>
      cases hpath.symm.trans hpath'
      cases houtline.symm.trans houtline'
      cases hwrite.symm.trans hwrite'
      exact ⟨rfl, rfl⟩

theorem Options.outlined_run (options : Options) (host : Host (StateM ω)) {outline : Text}
    (houtline : t.outline = .ok outline) (w : ω) :
    ∃ written w', Outlined host options t w written w' ∧ ∀ {α : Type} (done failed : α),
      (options.outlined host outline done failed).run w = (if written then done else failed, w') := by
  cases hpath : options.debugDump with
  | none =>
    refine ⟨true, w, .unasked hpath, fun done failed ↦ ?_⟩
    rw [outlined_none hpath]
    rfl
  | some path =>
    rcases hwrite : (host.writeFile path (Utf8.encode outline)).run w with ⟨written, w'⟩
    refine ⟨written, w', .asked hpath houtline hwrite, fun done failed ↦ ?_⟩
    simp only [outlined, hpath, StateT.run_bind, hwrite]
    cases written <;> rfl

def Translator.watched (tr : Translator σ) : Translator (σ × List Call) where
  analyze := tr.analyze.watched .analyze
  generate := tr.generate.watched .generate
  ahead s := tr.ahead s.1
  behind s := tr.behind s.1

def Converter.watched (c : Converter σ) (calls : List Call) : Converter (σ × List Call) where
  translator := c.translator.watched
  state := (c.state, calls)
  options := c.options
  document? := c.document?
  stats := c.stats

def Outcome.watched (o : Outcome σ α) (calls : List Call) : Outcome (σ × List Call) α :=
  ⟨o.converter.watched calls, o.events, o.result⟩

def analyses (n : Nat) : List Call := (List.range' 1 n).map .analyze

def generations (n : Nat) : List Call := (List.range' 1 n).map .generate

theorem calls_le (call : Nat → Call) {k n : Nat} (h : k ≤ n) :
    (List.range' 1 k).map call <+: (List.range' 1 n).map call := by
  have happend : List.range' 1 k ++ List.range' (1 + k) (n - k) = List.range' 1 n := by
    rw [List.range'_append_1, Nat.add_sub_of_le h]
  exact List.IsPrefix.map call ⟨_, happend⟩

namespace Converter

/-- A way that a conversion can go, with a tree in any notes: the calls it makes, what it answers, and
what the surroundings are afterwards. -/
inductive Phases (host : Host (StateM ω)) (c : Converter σ) (t : Tree) (notes : Notes) (w : ω) :
    List Call → Except Error Conversion → ω → Prop
  | unanalyzed {k : Nat} {d : Draft σ} {e : Error}
      (hanalysis : c.translator.analyze.Pass t ⟨c.state, notes⟩ t.size k d (some e)) :
      Phases host c t notes w (analyses k) (.error e) w
  | unwritten {d : Draft σ} {w' : ω}
      (hanalysis : c.translator.analyze.Pass t ⟨c.state, notes⟩ t.size t.size d none)
      (houtlined : Outlined host c.options t w false w') :
      Phases host c t notes w (analyses t.size) (.error .fileFailure) w'
  | ungenerated {k : Nat} {d d' : Draft σ} {e : Error} {w' : ω}
      (hanalysis : c.translator.analyze.Pass t ⟨c.state, notes⟩ t.size t.size d none)
      (houtlined : Outlined host c.options t w true w')
      (hgeneration : c.translator.generate.Pass t d t.size k d' (some e)) :
      Phases host c t notes w (analyses t.size ++ generations k) (.error e) w'
  | done {d d' : Draft σ} {text : Text} {w' : ω}
      (hanalysis : c.translator.analyze.Pass t ⟨c.state, notes⟩ t.size t.size d none)
      (houtlined : Outlined host c.options t w true w')
      (hgeneration : c.translator.generate.Pass t d t.size t.size d' none)
      (hassembly : Assembles t (c.translator.ahead d'.state ⟨t, d'.notes⟩)
        (c.translator.behind d'.state ⟨t, d'.notes⟩) 0 text) :
      Phases host c t notes w (analyses t.size ++ generations t.size)
        (.ok ⟨openTag ++ text, c.stats⟩) w'

variable {host : Host (StateM ω)} {c : Converter σ} {notes : Notes} {w w' : ω} {calls : List Call}
  {result : Except Error Conversion}

theorem Phases.scheduled (h : c.Phases host t notes w calls result w') :
    calls <+: analyses t.size ++ generations t.size := by
  cases h with
  | unanalyzed hanalysis =>
    exact (calls_le _ hanalysis.le).trans (List.prefix_append _ _)
  | unwritten => exact List.prefix_append _ _
  | ungenerated _ _ hgeneration =>
    exact (List.prefix_append_right_inj _).mpr (calls_le _ hgeneration.le)
  | done => exact List.prefix_refl _

theorem Phases.unique {calls' : List Call} {result' : Except Error Conversion} {w'' : ω}
    (h : c.Phases host t notes w calls result w') (h' : c.Phases host t notes w calls' result' w'') :
    calls = calls' ∧ result = result' ∧ w' = w'' := by
  cases h with
  | unanalyzed ha =>
    cases h' with
    | unanalyzed ha' =>
      obtain ⟨rfl, -, he⟩ := ha.unique ha'
      cases he
      exact ⟨rfl, rfl, rfl⟩
    | unwritten ha' | ungenerated ha' | done ha' => cases (ha.unique ha').2.2
  | unwritten ha ho =>
    cases h' with
    | unanalyzed ha' => cases (ha.unique ha').2.2
    | unwritten _ ho' =>
      obtain ⟨-, rfl⟩ := ho.unique ho'
      exact ⟨rfl, rfl, rfl⟩
    | ungenerated _ ho' | done _ ho' => cases (ho.unique ho').1
  | ungenerated ha ho hg =>
    cases h' with
    | unanalyzed ha' => cases (ha.unique ha').2.2
    | unwritten _ ho' => cases (ho.unique ho').1
    | ungenerated ha' ho' hg' =>
      obtain ⟨-, rfl, -⟩ := ha.unique ha'
      obtain ⟨-, rfl⟩ := ho.unique ho'
      obtain ⟨rfl, -, he⟩ := hg.unique hg'
      cases he
      exact ⟨rfl, rfl, rfl⟩
    | done ha' _ hg' =>
      obtain ⟨-, rfl, -⟩ := ha.unique ha'
      cases (hg.unique hg').2.2
  | done ha ho hg htext =>
    cases h' with
    | unanalyzed ha' => cases (ha.unique ha').2.2
    | unwritten _ ho' => cases (ho.unique ho').1
    | ungenerated ha' _ hg' =>
      obtain ⟨-, rfl, -⟩ := ha.unique ha'
      cases (hg.unique hg').2.2
    | done ha' ho' hg' htext' =>
      obtain ⟨-, rfl, -⟩ := ha.unique ha'
      obtain ⟨-, rfl⟩ := ho.unique ho'
      obtain ⟨-, rfl, -⟩ := hg.unique hg'
      obtain rfl := htext.unique htext'
      exact ⟨rfl, rfl, rfl⟩

def keep (c : Converter σ) (t : Tree) (d : Draft σ) : Converter σ :=
  { c with state := d.state, document? := some ⟨t, d.notes⟩ }

/-- What a tree that was read has for each phase: its walks follow the ids, which are counted from
one, it has an outline, and it unfolds from its first node. -/
structure Convertible (t : Tree) : Prop where
  preorder : t.preorder = List.range t.size
  flat : t.flat = List.range t.size
  ids : ∀ h, h < t.size → idAt t h = h + 1
  outline : ∃ outline, t.outline = .ok outline
  root : t.root? = some 0
  branch : ∃ b, t.unfolding? 0 = some b ∧ b.Unfolds t ∧ b.handle = 0

theorem convertible_of_lines {lines : List Text} {stats : Stats}
    (h : Tree.ofLines? lines = .ok (t, stats)) : Convertible t := by
  obtain ⟨b, ns, -, hns, hne, rfl, -⟩ := Tree.ofLines?_ok h
  have hordered := Tree.linked_ordered hns.stepped hne hns.ids
  obtain ⟨br, hunfolding, hunfolds, hhandle, -⟩ := Tree.linked_branch hns.stepped hne
  rw [hns.tree]
  exact {
    preorder := hordered.preorder.trans hordered.flat
    flat := hordered.flat
    ids := by
      intro h hh
      have hids := congrArg (·[h]?) hordered.flat_ids
      rw [hordered.flat] at hids
      have hid : ((Tree.linked ns).get? h).map Node.id = some (1 + h) := by simpa [hh] using hids
      rw [idAt, hid, Option.getD_some, Nat.add_comm]
    outline := ⟨_, Tree.linked_outline hns.stepped hne⟩
    root := Tree.linked_root?_of_ne_nil hne
    branch := ⟨br, hunfolding, hunfolds, hhandle⟩ }

theorem visitAll_pass (c : Converter σ) (visit : Visit σ) (call : Nat → Call)
    (hids : ∀ h, h < t.size → idAt t h = h + 1) {hs : List Handle} (hhs : hs = List.range t.size)
    (notes : Notes) (events : List Event) (calls : List Call) :
    ∃ k d failed, visit.Pass t ⟨c.state, notes⟩ t.size k d failed ∧
      c.visitAll ⟨t, notes⟩ visit hs events =
        ⟨c.keep t d, events, failed.elim (.ok ⟨t, d.notes⟩) .error⟩ ∧
      (c.watched calls).visitAll ⟨t, notes⟩ (visit.watched call) hs events =
        ⟨(c.keep t d).watched (calls ++ (List.range' 1 k).map call), events,
          failed.elim (.ok ⟨t, d.notes⟩) .error⟩ := by
  subst hhs
  obtain ⟨k, d, failed, hpass, hrun, hwatched⟩ := visit.run_pass call ⟨c.state, notes⟩ calls hids
  refine ⟨k, d, failed, hpass, ?_, ?_⟩
  · simp only [visitAll, hrun]
    cases failed <;> rfl
  · have hstart : (⟨(c.watched calls).state, notes⟩ : Draft (σ × List Call)) =
        Draft.watched ⟨c.state, notes⟩ calls := rfl
    simp only [visitAll, hstart, hwatched]
    cases failed <;> rfl

theorem analyze_pass (c : Converter σ) (ht : Convertible t) (notes : Notes) (calls : List Call) :
    ∃ k d failed, c.translator.analyze.Pass t ⟨c.state, notes⟩ t.size k d failed ∧
      c.analyze ⟨t, notes⟩ =
        ⟨c.keep t d, c.progress .analyzing, failed.elim (.ok ⟨t, d.notes⟩) .error⟩ ∧
      (c.watched calls).analyze ⟨t, notes⟩ =
        ⟨(c.keep t d).watched (calls ++ analyses k), c.progress .analyzing,
          failed.elim (.ok ⟨t, d.notes⟩) .error⟩ :=
  c.visitAll_pass c.translator.analyze .analyze ht.ids ht.preorder notes _ calls

theorem assemble_assembles (c : Converter σ) (ht : Convertible t) (notes : Notes) :
    ∃ text, c.assemble ⟨t, notes⟩ = .ok (openTag ++ text) ∧
      Assembles t (c.translator.ahead c.state ⟨t, notes⟩) (c.translator.behind c.state ⟨t, notes⟩)
        0 text := by
  obtain ⟨b, hunfolding, hunfolds, hhandle⟩ := ht.branch
  refine ⟨_, ?_, hhandle ▸ hunfolds.assembles _ _⟩
  simp only [assemble, ht.root, hunfolding]

theorem generate_pass (c : Converter σ) (ht : Convertible t) (notes : Notes) (calls : List Call) :
    ∃ k d failed, c.translator.generate.Pass t ⟨c.state, notes⟩ t.size k d failed ∧
      (c.watched calls).generate ⟨t, notes⟩ =
        (c.generate ⟨t, notes⟩).watched (calls ++ generations k) ∧
      match failed with
      | some e => (c.generate ⟨t, notes⟩).result = .error e
      | none => ∃ text, (c.generate ⟨t, notes⟩).result = .ok ⟨openTag ++ text, c.stats⟩ ∧
          Assembles t (c.translator.ahead d.state ⟨t, d.notes⟩)
            (c.translator.behind d.state ⟨t, d.notes⟩) 0 text := by
  obtain ⟨k, d, failed, hpass, hvisits, hwatched⟩ := c.visitAll_pass c.translator.generate .generate
    ht.ids ht.flat notes (c.progress .generating) calls
  obtain ⟨text, htext, hassembly⟩ := (c.keep t d).assemble_assembles ht d.notes
  have hgenerate : c.generate ⟨t, notes⟩ = _ := congrArg (Outcome.andThen · _) hvisits
  have hgenerate' : (c.watched calls).generate ⟨t, notes⟩ = _ :=
    congrArg (Outcome.andThen · _) hwatched
  refine ⟨k, d, failed, hpass, ?_, ?_⟩
  · rw [hgenerate, hgenerate']
    cases failed with
    | some e => rfl
    | none => rfl
  · rw [hgenerate]
    cases failed with
    | some e => rfl
    | none =>
      refine ⟨text, ?_, hassembly⟩
      simp only [Outcome.andThen, Option.elim, htext]
      rfl

theorem phases_of_outlined (ht : Convertible t) {d : Draft σ}
    (hanalysis : c.translator.analyze.Pass t ⟨c.state, notes⟩ t.size t.size d none)
    (houtlined : Outlined host c.options t w true w') :
    ∃ calls, ((c.keep t d).watched (analyses t.size)).generate ⟨t, d.notes⟩ =
        ((c.keep t d).generate ⟨t, d.notes⟩).watched calls ∧
      c.Phases host t notes w calls ((c.keep t d).generate ⟨t, d.notes⟩).result w' := by
  obtain ⟨k, d', failed, hgeneration, hwatched, hresult⟩ :=
    (c.keep t d).generate_pass ht d.notes (analyses t.size)
  refine ⟨analyses t.size ++ generations k, hwatched, ?_⟩
  cases failed with
  | some e =>
    rw [hresult]
    exact .ungenerated hanalysis houtlined hgeneration
  | none =>
    obtain ⟨text, htext, hassembly⟩ := hresult
    obtain rfl := hgeneration.eq_of_none
    rw [htext]
    exact .done hanalysis houtlined hgeneration hassembly

theorem convert_unanalyzed {m : Type → Type} [Monad m] (host : Host m) {c c' : Converter σ}
    {d : Document} {events : List Event} {e : Error} (hdocument : c.document? = some d)
    (hanalyze : c.analyze d = ⟨c', events, .error e⟩) :
    c.convert host = pure ⟨c', events, .error e⟩ := by
  simp only [convert, hdocument, hanalyze]

theorem watched_convert (host : Host (StateM ω)) (c : Converter σ) (ht : Convertible t)
    (hdocument : c.document? = some ⟨t, notes⟩) (w : ω) :
    let done := (c.convert host).run w
    ∃ calls, ((c.watched []).convert host).run w = (done.1.watched calls, done.2) ∧
      c.Phases host t notes w calls done.1.result done.2 := by
  intro done
  have hdocument' : (c.watched []).document? = some ⟨t, notes⟩ := hdocument
  obtain ⟨k, d, failed, hanalysis, hanalyze, hanalyze'⟩ := c.analyze_pass ht notes []
  cases failed with
  | some e =>
    have hconvert := convert_unanalyzed host hdocument hanalyze
    have hconvert' := convert_unanalyzed host hdocument' hanalyze'
    have hdone : done = (⟨c.keep t d, c.progress .analyzing, .error e⟩, w) :=
      congrArg (StateT.run · w) hconvert
    rw [hdone, hconvert']
    exact ⟨analyses k, rfl, .unanalyzed hanalysis⟩
  | none =>
    obtain rfl := hanalysis.eq_of_none
    obtain ⟨outline, houtline⟩ := ht.outline
    obtain ⟨written, w', houtlined, hrun⟩ := c.options.outlined_run host houtline w
    have hconvert := convert_outlined host hdocument hanalyze houtline
    have hconvert' := convert_outlined host hdocument' hanalyze' houtline
    have hdone : done = _ := (congrArg (StateT.run · w) hconvert).trans (hrun _ _)
    have hdone' := (congrArg (StateT.run · w) hconvert').trans (hrun _ _)
    rw [hdone, hdone', hanalyze, hanalyze']
    cases written with
    | false => exact ⟨analyses t.size, rfl, .unwritten hanalysis houtlined⟩
    | true =>
      obtain ⟨calls, hgenerate, hphases⟩ := phases_of_outlined ht hanalysis houtlined
      refine ⟨calls, ?_, hphases⟩
      simp only [Outcome.andThen, Option.elim, List.nil_append, hgenerate]
      rfl

theorem convert_phases (host : Host (StateM ω)) (c : Converter σ) {lines : List Text}
    {tree : Tree} {stats : Stats} {notes : Notes} (h : Tree.ofLines? lines = .ok (tree, stats))
    (hdocument : c.document? = some ⟨tree, notes⟩) (w : ω) :
    let done := (c.convert host).run w
    ∃ calls, ((c.watched []).convert host).run w = (done.1.watched calls, done.2) ∧
      calls <+: analyses tree.size ++ generations tree.size ∧
      ∀ calls' result w', c.Phases host tree notes w calls' result w' ↔
        calls' = calls ∧ result = done.1.result ∧ w' = done.2 := by
  intro done
  have ht := convertible_of_lines h
  obtain ⟨calls, hwatched, hphases⟩ := watched_convert host c ht hdocument w
  refine ⟨calls, hwatched, hphases.scheduled, fun calls' result w' ↦ ⟨?_, ?_⟩⟩
  · intro hphases'
    exact hphases'.unique hphases
  · rintro ⟨rfl, rfl, rfl⟩
    exact hphases

theorem convert_phases_ungenerated :
    let lines := ["PPI::Document", "  PPI::Statement", "    PPI::Token::Word 'a'"].map String.toList
    let b := (({} : Builder).feed (lines.map .ok)).1
    let c : Converter Unit := {
      translator := .failing none (some 2) .mark, state := ()
      options := { debugDump := some "out".toList }
      document? := some (.ofTree b.tree) }
    let done := (c.convert World.host).run {}
    let calls : List Call := [.analyze 1, .analyze 2, .analyze 3, .generate 1, .generate 2]
    Tree.ofLines? lines = .ok (b.tree, b.stats) ∧
      ((c.watched []).convert World.host).run {} = (done.1.watched calls, done.2) ∧
      c.Phases World.host b.tree (Notes.blank b.tree) {} calls done.1.result done.2 ∧
      done.1.result = .error (.unknownKind "generate 2".toList) ∧
      b.tree.outline.toOption.map Utf8.encode = done.2.files.read? "out".toList := by
  intro lines b c done calls
  have h : Tree.ofLines? lines = .ok (b.tree, b.stats) := by decide +kernel
  have hruns : (((c.watched []).convert World.host).run {}).1.converter.state.2 = calls ∧
      done.1.result = .error (.unknownKind "generate 2".toList) ∧
      b.tree.outline.toOption.map Utf8.encode = done.2.files.read? "out".toList := by
    decide +kernel
  have hdocument : c.document? = some ⟨b.tree, Notes.blank b.tree⟩ := rfl
  obtain ⟨calls', hwatched, -, hphases⟩ := convert_phases World.host c h hdocument {}
  obtain rfl : calls = calls' := by
    rw [← hruns.1, hwatched]
    rfl
  refine ⟨h, hwatched, ?_, hruns.2⟩
  dsimp only [done]
  exact (hphases calls _ _).mpr ⟨rfl, rfl, rfl⟩

end Converter

end PpiDump
