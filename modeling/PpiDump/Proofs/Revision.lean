import PpiDump.Proofs.Phases
import PpiDump.Reviser

namespace PpiDump

variable {σ ω : Type} {t : Tree} {stats : Stats} {lines : List Text}

namespace Tree

theorem mapM_named? {hs : List Handle} (h : ∀ k ∈ hs, t.named? k = some k) :
    hs.mapM t.named? = some hs := by
  induction hs with
  | nil => rfl
  | cons k hs ih =>
    rw [List.mapM_cons, h k List.mem_cons_self, ih fun k hk ↦ h k (List.mem_cons_of_mem _ hk)]
    rfl

theorem orders_of_lines (h : Tree.ofLines? lines = .ok (t, stats)) :
    t.treeOrder? = some t.preorder ∧ t.flatOrder? = some t.flat := by
  have ht := Converter.convertible_of_lines h
  obtain ⟨b, ns, -, hns, hne, rfl, -⟩ := Tree.ofLines?_ok h
  have hordered := linked_ordered hns.stepped hne hns.ids
  rw [← hns.tree] at hordered
  have hnamed : (List.range b.tree.size).mapM b.tree.named? = some (List.range b.tree.size) := by
    refine mapM_named? fun k hk ↦ ?_
    have hk := List.mem_range.mp hk
    have hid := ht.ids k hk
    obtain ⟨node, hget⟩ : ∃ node, b.tree.get? k = some node := ⟨_, Array.getElem?_eq_getElem hk⟩
    rw [Translator.Probe.idAt, hget, Option.map_some, Option.getD_some] at hid
    simp [named?, hget, Node.handle, hid]
  constructor
  · obtain ⟨br, hunfolding, hunfolds, hhandle⟩ := ht.branch
    have hroot : b.tree.root? = some br.handle := hhandle ▸ ht.root
    have hpreorder := (preorder_of_unfolds hroot hunfolds).2
    rw [treeOrder?, ht.root]
    simp only [hunfolding, Option.bind_some]
    rw [← hpreorder, ht.preorder, hnamed]
  · have hlength : b.tree.flat.length = b.tree.size := by rw [ht.flat, List.length_range]
    have hfollow : PpiDump.follow b.tree.next? (b.tree.size + 1) b.tree.root? = b.tree.flat :=
      hordered.flat_ends.follow_eq (by omega)
    simp only [flatOrder?, hfollow, hlength, le_refl, if_true]
    rw [ht.flat, hnamed]

end Tree

theorem Visit.run_revise (visit : Visit σ) (method : Reviser.Method) (t : Tree) (hs : List Handle)
    (d : Draft σ) :
    ∃ calls, visit.revise.run method hs ⟨d.state, t, d.notes⟩ =
      (⟨(visit.run t hs d).1.state, t, (visit.run t hs d).1.notes⟩, calls, (visit.run t hs d).2) := by
  induction hs generalizing d with
  | nil => exact ⟨[], rfl⟩
  | cons h hs ih =>
    rcases hvisit : visit t h d with ⟨d', _ | e⟩
    · obtain ⟨calls, hcalls⟩ := ih d'
      refine ⟨⟨method, h, t, d.notes⟩ :: calls, ?_⟩
      simp only [Reviser.Visit.run, revise, run, hvisit, hcalls]
    · exact ⟨_, by simp only [Reviser.Visit.run, revise, run, hvisit]; rfl⟩

namespace Converter

theorem pass_revise (c : Converter σ) (visit : Visit σ) (method : Reviser.Method) (e : Event)
    (hs : List Handle) (d : Document) :
    (c.pass visit.revise method e (some hs) d).toOutcome = c.visitAll d visit hs (c.progress e) := by
  obtain ⟨calls, hcalls⟩ := visit.run_revise method d.tree hs ⟨c.state, d.notes⟩
  rcases hvisits : visit.run d.tree hs ⟨c.state, d.notes⟩ with ⟨draft, _ | failure⟩ <;>
    simp only [pass, visitAll, hcalls, hvisits]

theorem visitAll_keeps {c c' : Converter σ} {d d' : Document} {visit : Visit σ} {hs : List Handle}
    {events events' : List Event} (h : c.visitAll d visit hs events = ⟨c', events', .ok d'⟩) :
    d'.tree = d.tree ∧ c'.translator = c.translator := by
  rw [visitAll] at h
  rcases hrun : visit.run d.tree hs ⟨c.state, d.notes⟩ with ⟨draft, _ | e⟩
  · rw [hrun] at h
    cases h
    exact ⟨rfl, rfl⟩
  · rw [hrun] at h
    cases h

theorem generateBy_reviser (c : Converter σ) (h : Tree.ofLines? lines = .ok (t, stats))
    {d : Document} (hd : d.tree = t) :
    (c.generateBy c.translator.reviser 0 d).toOutcome = c.generate d := by
  obtain ⟨b, hunfolding, -⟩ := (convertible_of_lines h).branch
  have hroot := (convertible_of_lines h).root
  have hpass := c.pass_revise c.translator.generate .generate .generating d.tree.flat d
  rw [generateBy, generate, hd, (Tree.orders_of_lines h).2, ← hd, ← hpass]
  rcases hvisits : c.pass c.translator.generate.revise .generate .generating (some d.tree.flat) d
    with ⟨⟨c', events, e | d'⟩, calls⟩
  · simp only [Translator.reviser, hvisits]
    rfl
  · rw [hvisits] at hpass
    obtain ⟨htree, htranslator⟩ := visitAll_keeps hpass.symm
    rw [← htree] at hd
    simp only [Translator.reviser, hvisits, Course.andThen, Outcome.andThen, assembleBy, assemble,
      hd, hroot, hunfolding, htranslator]
    rfl

theorem convertBy_reviser (host : Host (StateM ω)) (c : Converter σ) {notes : Notes}
    (h : Tree.ofLines? lines = .ok (t, stats)) (hdocument : c.document? = some ⟨t, notes⟩) (w : ω) :
    let done := (c.convertBy host c.translator.reviser).run w
    (done.1.toOutcome, done.2) = (c.convert host).run w := by
  have hroot := (convertible_of_lines h).root
  have hpass := c.pass_revise c.translator.analyze .analyze .analyzing t.preorder ⟨t, notes⟩
  simp only [convertBy, convert, hdocument, hroot, (Tree.orders_of_lines h).1, analyze]
  rw [← hpass]
  rcases hvisits : c.pass c.translator.analyze.revise .analyze .analyzing (some t.preorder) ⟨t, notes⟩
    with ⟨⟨c', events, e | d'⟩, calls⟩
  · simp only [Translator.reviser, hvisits]
    rfl
  · rw [hvisits] at hpass
    obtain ⟨htree, htranslator⟩ := visitAll_keeps hpass.symm
    have hgenerate := c'.generateBy_reviser h htree
    rw [htranslator] at hgenerate
    simp only [Translator.reviser, hvisits, StateT.run_bind]
    rcases (c'.writeOutline host d').run w with ⟨e | u, w'⟩
    · rfl
    · let after (o : Outcome σ Conversion) : Outcome σ Conversion × ω :=
        ({ o with events := events ++ o.events }, w')
      exact congrArg after hgenerate

end Converter

end PpiDump
