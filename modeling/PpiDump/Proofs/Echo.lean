import PpiDump.Proofs.Content
import PpiDump.Proofs.Emission
import PpiDump.Proofs.Outline
import PpiDump.Proofs.Reading
import PpiDump.Proofs.Traversal

namespace PpiDump

namespace Notes

theorem size_update (ns : Notes) (h : Nat) (f : Note → Note) : (ns.update h f).size = ns.size :=
  Array.size_modify

theorem note_update (ns : Notes) (h h' : Nat) (f : Note → Note) (hh : h < ns.size) :
    (ns.update h f).note h' = if h = h' then f (ns.note h') else ns.note h' := by
  simp only [note, update, Array.getElem?_modify]
  split
  · subst h'
    simp [hh]
  · rfl

theorem of_update {α : Type} {g : Note → α} {f : Note → Note} (hf : ∀ n, g (f n) = g n)
    (ns : Notes) (h h' : Nat) : g ((ns.update h f).note h') = g (ns.note h') := by
  by_cases hh : h < ns.size
  · rw [note_update ns h h' f hh]
    split
    · exact hf _
    · rfl
  · simp only [note, update, Array.getElem?_modify]
    split
    · simp [hh, ← ‹h = h'›]
    · rfl

end Notes

namespace Translator.Echo

variable {σ : Type} {t : Tree}

theorem write_write (n : Note) (p : Payload) : write (write n p) p = write n p := by
  cases p <;> rfl

/-- What generation leaves in a note of the node at `h`. -/
def written (t : Tree) (h : Handle) (n : Note) : Note :=
  match t.get? h with
  | some node => write n node.payload
  | none => n

theorem written_written (t : Tree) (h : Handle) (n : Note) :
    written t h (written t h n) = written t h n := by
  unfold written
  cases t.get? h with
  | none => rfl
  | some node => exact write_write n node.payload

theorem run_analyze_cons (t : Tree) (h : Handle) (hs : List Handle) (d : Draft σ) :
    Visit.run echo.analyze t (h :: hs) d = Visit.run echo.analyze t hs
      { d with notes := d.notes.update h fun n ↦ n.set pathKey (path t d.notes h) } :=
  rfl

theorem run_analyze (t : Tree) (hs : List Handle) (d : Draft σ) :
    ∃ d', Visit.run echo.analyze t hs d = (d', none) ∧ d'.state = d.state ∧
      d'.notes.size = d.notes.size ∧ ∀ h, (d'.notes.note h).output = (d.notes.note h).output ∧
        (d'.notes.note h).closing = (d.notes.note h).closing := by
  induction hs generalizing d with
  | nil => exact ⟨d, rfl, rfl, rfl, fun _ ↦ ⟨rfl, rfl⟩⟩
  | cons h hs ih =>
    rw [run_analyze_cons]
    obtain ⟨d', hrun, hstate, hsize, hnote⟩ := ih
      { d with notes := d.notes.update h fun n ↦ n.set pathKey (path t d.notes h) }
    refine ⟨d', hrun, hstate, hsize.trans (Notes.size_update ..), fun h' ↦ ?_⟩
    rw [(hnote h').1, (hnote h').2]
    have houtput (n : Note) (value : Text) : (n.set pathKey value).output = n.output := rfl
    have hclosing (n : Note) (value : Text) : (n.set pathKey value).closing = n.closing := rfl
    exact ⟨Notes.of_update (houtput · _) .., Notes.of_update (hclosing · _) ..⟩

theorem run_generate (t : Tree) (hs : List Handle) (d : Draft σ) (hsize : d.notes.size = t.size) :
    ∃ d', Visit.run echo.generate t hs d = (d', none) ∧ d'.state = d.state ∧
      d'.notes.size = t.size ∧
      ∀ h, d'.notes.note h = if h ∈ hs then written t h (d.notes.note h) else d.notes.note h := by
  induction hs generalizing d with
  | nil => exact ⟨d, rfl, rfl, hsize, fun _ ↦ rfl⟩
  | cons h hs ih =>
    cases hget : t.get? h with
    | none =>
      obtain ⟨d', hrun, hstate, hsize', hnote⟩ := ih d hsize
      refine ⟨d', ?_, hstate, hsize', fun h' ↦ ?_⟩
      · simp only [Visit.run, echo, hget]
        exact hrun
      · rw [hnote]
        by_cases hh : h' = h
        · subst hh
          simp [written, hget]
        · simp [hh]
    | some node =>
      have hlt : h < d.notes.size := hsize ▸ (Array.getElem?_eq_some_iff.mp hget).1
      obtain ⟨d', hrun, hstate, hsize', hnote⟩ := ih
        { d with notes := d.notes.update h (write · node.payload) }
        ((Notes.size_update ..).trans hsize)
      refine ⟨d', ?_, hstate, hsize', fun h' ↦ ?_⟩
      · simp only [Visit.run, echo, hget]
        exact hrun
      · rw [hnote, Notes.note_update _ _ _ _ hlt]
        by_cases hh : h' = h
        · subst hh
          have hw : write (d.notes.note h') node.payload = written t h' (d.notes.note h') := by
            simp [written, hget]
          simp [hw, written_written]
        · simp [hh, Ne.symm hh]

end Translator.Echo

theorem Record.Describes.payload_eq {r : Record} {node : Node} (h : r.Describes node) :
    r.payload = node.payload := by
  simp [Record.payload, h.kind, Payload.decode_id h.payload 0]

/-- A note in which generation leaves what the payload asks for: no text from elsewhere stays. -/
def Note.Fits (n : Note) (p : Payload) : Prop :=
  (Translator.Echo.write n p).output.getD [] = p.ahead ∧
    (Translator.Echo.write n p).closing.getD [] = p.behind

namespace Note.Fits

open Translator.Echo

variable {n n' : Note} {p : Payload}

theorem of_eq (houtput : n'.output = n.output) (hclosing : n'.closing = n.closing)
    (h : n.Fits p) : n'.Fits p := by
  cases p <;> simpa [Fits, write, houtput, hclosing] using h

theorem write (h : n.Fits p) : (write n p).Fits p := by
  rw [Fits, write_write]
  exact h

theorem blank (p : Payload) : ({} : Note).Fits p := by
  cases p <;> simp [Fits, Translator.Echo.write, Payload.ahead, Payload.behind]

end Note.Fits

/-- Notes for the nodes of a tree, as a conversion finds and leaves them. -/
structure Notes.Fit (notes : Notes) (t : Tree) : Prop where
  size : notes.size = t.size
  fits : ∀ h node, t.get? h = some node → (notes.note h).Fits node.payload

theorem Notes.blank_fit (t : Tree) : (blank t).Fit t where
  size := by simp [blank]
  fits := by
    intro h node hget
    have hlt : h < t.size := (Array.getElem?_eq_some_iff.mp hget).1
    have hblank : (blank t).note h = {} := by simp [blank, note, hlt]
    rw [hblank]
    exact .blank node.payload

namespace Converter

open Translator Translator.Echo Builder

variable {σ : Type} {c : Converter σ} {b : Builder} {rs : List Record} {ns : List Node} {t : Tree}
  {notes : Notes}

theorem analyze_echo (hc : c.translator = .echo) (hfit : notes.Fit t) :
    ∃ notes' : Notes, notes'.Fit t ∧ c.analyze ⟨t, notes⟩ =
      ⟨{ c with document? := some ⟨t, notes'⟩ }, c.progress .analyzing, .ok ⟨t, notes'⟩⟩ := by
  obtain ⟨d, hrun, hstate, hsize, hnote⟩ := run_analyze t t.preorder ⟨c.state, notes⟩
  refine ⟨d.notes, ⟨hsize.trans hfit.size, fun h node hget ↦ ?_⟩, ?_⟩
  · exact (hfit.fits h node hget).of_eq (hnote h).1 (hnote h).2
  · simp only [analyze, visitAll, hc, hrun, hstate]

theorem visitAll_generate (c : Converter σ) (hfit : notes.Fit t) (hs : List Handle)
    (events : List Event) :
    ∃ notes' : Notes, notes'.Fit t ∧
      (∀ h ∈ hs, ∀ node, t.get? h = some node →
        notes'.note h = Echo.write (notes.note h) node.payload) ∧
      c.visitAll ⟨t, notes⟩ Translator.echo.generate hs events =
        ⟨{ c with document? := some ⟨t, notes'⟩ }, events, .ok ⟨t, notes'⟩⟩ := by
  obtain ⟨d, hrun, hstate, hsize, hnote⟩ := run_generate t hs ⟨c.state, notes⟩ hfit.size
  have hwritten {h : Handle} {node : Node} (hh : h ∈ hs) (hget : t.get? h = some node) :
      d.notes.note h = Echo.write (notes.note h) node.payload := by
    rw [hnote, if_pos hh, written, hget]
  refine ⟨d.notes, ⟨hsize, fun h node hget ↦ ?_⟩, fun h hh node ↦ hwritten hh, ?_⟩
  · by_cases hh : h ∈ hs
    · rw [hwritten hh hget]
      exact (hfit.fits h node hget).write
    · rw [hnote, if_neg hh]
      exact hfit.fits h node hget
  · simp only [visitAll, hrun, hstate]

theorem linked_payload (hb : b.Holds rs ns) {k : Nat} {r : Record} (hr : rs[k]? = some r) :
    k ∈ (Tree.linked ns).flat ∧
      ∃ node, (Tree.linked ns).get? k = some node ∧ node.payload = r.payload := by
  obtain ⟨hk, rfl⟩ := List.getElem?_eq_some_iff.mp hr
  have hk' : k < ns.length := hb.length_eq ▸ hk
  have hpayload := (hb.describes.get hk hk').payload_eq
  rw [Tree.linked_flat, List.mem_range]
  refine ⟨hk', (levelsOf ns).link k ns[k], ?_, hpayload.symm⟩
  rw [Tree.linked_get?, List.getElem?_eq_getElem hk', Option.map_some]

theorem generate_echo (hc : c.translator = .echo) (hb : b.Holds rs ns) (hne : ns ≠ [])
    (hfit : notes.Fit (Tree.linked ns)) :
    ∃ notes' : Notes, notes'.Fit (Tree.linked ns) ∧
      (c.generate ⟨Tree.linked ns, notes⟩).converter =
        { c with document? := some ⟨Tree.linked ns, notes'⟩ } ∧
      (c.generate ⟨Tree.linked ns, notes⟩).result = .ok ⟨Emitter.emit rs, c.stats⟩ := by
  obtain ⟨notes', hfit', hwritten, hvisits⟩ :=
    c.visitAll_generate hfit (Tree.linked ns).flat (c.progress .generating)
  obtain ⟨br, hforest, hunfolding⟩ := Tree.linked_unfolding? hb.stepped hne
  have hnote (k : Nat) (r : Record) (hr : rs[k]? = some r) :
      (notes'.note k).output.getD [] = r.payload.ahead ∧
        (notes'.note k).closing.getD [] = r.payload.behind := by
    obtain ⟨hmem, node, hget, hpayload⟩ := linked_payload hb hr
    rw [hwritten k hmem node hget, ← hpayload]
    exact hfit.fits k node hget
  have hemit := Emitter.foldl_accept (fun h ↦ (notes'.note h).output.getD [])
    (fun h ↦ (notes'.note h).closing.getD []) rs {} 0
    (fun k r hr ↦ by rw [Nat.zero_add, (hnote k r hr).1])
    (fun k r hr ↦ by rw [Nat.zero_add, (hnote k r hr).2])
  rw [← hb.levels_eq, hforest] at hemit
  have hgenerate : c.generate ⟨Tree.linked ns, notes⟩ =
      ⟨{ c with document? := some ⟨Tree.linked ns, notes'⟩ },
        c.progress .generating ++ c.progress .writing, .ok ⟨Emitter.emit rs, c.stats⟩⟩ := by
    simp only [generate, hc, hvisits, Outcome.andThen, assemble, Tree.linked_root?_of_ne_nil hne,
      hunfolding, Except.map]
    rw [Emitter.emit, hemit]
    simp only [Forest.interleave, Forest.wrap, Forest.branches, List.map_cons, List.map_nil,
      Branch.wrapAll, List.append_nil]
    rfl
  rw [hgenerate]
  exact ⟨notes', hfit', rfl, rfl⟩

variable {m : Type → Type} [Monad m] [LawfulMonad m]

theorem convert_echo (host : Host m) (hc : c.translator = .echo) (hb : b.Holds rs ns)
    (hne : ns ≠ []) (hdocument : c.document? = some ⟨b.tree, notes⟩) (hfit : notes.Fit b.tree) :
    ∃ (text : Text) (notes' : Notes) (done failed : Outcome σ Conversion),
      c.convert host = c.options.outlined host text done failed ∧ notes'.Fit b.tree ∧
      done.converter = { c with document? := some ⟨b.tree, notes'⟩ } ∧
      done.result = .ok ⟨Emitter.emit rs, c.stats⟩ ∧ failed.result = .error .fileFailure := by
  obtain ⟨notes₁, hfit₁, hanalyze⟩ := analyze_echo hc hfit
  rw [hb.tree] at hfit₁
  obtain ⟨notes', hfit', hconverter, hresult⟩ := generate_echo
    (c := { c with document? := some ⟨b.tree, notes₁⟩ }) hc hb hne hfit₁
  have htext := Tree.linked_outline hb.stepped hne
  rw [← hb.tree] at hconverter hresult htext hfit'
  have hconvert := convert_outlined host hdocument hanalyze htext
  refine ⟨_, notes', _, _, hconvert, hfit', ?_, ?_, rfl⟩
  · simpa only [hanalyze, Outcome.andThen] using hconverter
  · simpa only [hanalyze, Outcome.andThen] using hresult

theorem readLines_convert (host : Host m) (hc : c.translator = .echo) {lines : List Text}
    {tree : Tree} {stats : Stats} (h : Tree.ofLines? lines = .ok (tree, stats)) :
    ∃ text done failed, (c.readLines lines).converter.convert host =
        c.options.outlined host text done failed ∧
      done.result = .ok ⟨Emitter.emit (recordsOf lines), stats⟩ ∧
      failed.result = .error .fileFailure := by
  obtain ⟨b, ns, -, hns, hne, rfl, rfl⟩ := Tree.ofLines?_ok h
  rw [(c.readLines_ok h).2]
  obtain ⟨text, -, done, failed, hconvert, -, -, hdone, hfailed⟩ :=
    convert_echo (c := { c with document? := some (.ofTree b.tree), stats := b.stats }) host hc hns
      hne rfl (Notes.blank_fit b.tree)
  exact ⟨text, done, failed, hconvert, hdone, hfailed⟩

end Converter

theorem convertDump_emit {m : Type → Type} [Monad m] [LawfulMonad m] (host : Host m) (text : Text)
    (options : Options) {tree : Tree} {stats : Stats}
    (h : Tree.ofLines? text.lines = .ok (tree, stats)) :
    ∃ outline done failed, convertDump host text options =
        options.outlined host outline done failed ∧
      done.result = .ok ⟨Emitter.emit (recordsOf text.lines), stats⟩ ∧
      failed.result = .error .fileFailure := by
  obtain ⟨outline, done, failed, hconvert, hdone, hfailed⟩ :=
    Converter.readLines_convert (c := Converter.echo options) host rfl h
  simp only [convertDump, ((Converter.echo options).readLines_ok h).1, hconvert]
  exact ⟨outline, _, _, Options.outlined_bind rfl rfl, hdone, hfailed⟩

/-- Whatever reads as a tree, the echo translator makes of it what one pass over its records does,
in a converter with any history and from the text of the dump alike. -/
theorem Converter.echo_emits {m : Type → Type} [Monad m] [LawfulMonad m] (host : Host m)
    {lines : List Text} {tree : Tree} {stats : Stats}
    (h : Tree.ofLines? lines = .ok (tree, stats)) :
    (∀ {σ : Type} (c : Converter σ), c.translator = .echo → c.options.debugDump = none →
      (c.readLines lines).result = .ok () ∧
        ∃ o, (c.readLines lines).converter.convert host = pure o ∧
          o.result = .ok ⟨Emitter.emit (recordsOf lines), stats⟩) ∧
      ∀ (text : Text) (options : Options), text.lines = lines → options.debugDump = none →
        ∃ o, convertDump host text options = pure o ∧
          o.result = .ok ⟨Emitter.emit (recordsOf lines), stats⟩ := by
  refine ⟨fun c hc hdebug ↦ ⟨(c.readLines_ok h).1, ?_⟩, ?_⟩
  · obtain ⟨text, done, failed, hconvert, hdone, -⟩ := readLines_convert host hc h
    exact ⟨done, hconvert.trans (Options.outlined_none hdebug), hdone⟩
  · rintro text options rfl hdebug
    obtain ⟨outline, done, failed, hconvert, hdone, -⟩ := convertDump_emit host text options h
    exact ⟨done, hconvert.trans (Options.outlined_none hdebug), hdone⟩

def Host.bare : Host Id where
  readFile _ := none
  writeFile _ _ := false
  launch _ _ := none
  release _ := ()
  print _ := ()
  log _ := ()

theorem Converter.echo_emits_nested :
    let text := Text.join ['\n'] (["PPI::Document", "  PPI::Structure  ( ... )",
      "    PPI::Token 'a'", "", "      PPI::Document", "  PPI::Token 'b'"].map String.toList)
    let b := (({} : Builder).feed (text.lines.map .ok)).1
    Tree.ofLines? text.lines = .ok (b.tree, b.stats) ∧
      (∃ o, convertDump Host.bare text {} = pure o ∧
        o.result = .ok ⟨Emitter.emit (recordsOf text.lines), b.stats⟩) ∧
      Emitter.emit (recordsOf text.lines) = "<?php\n(a)b".toList :=
  have h := by decide +kernel
  ⟨h, (echo_emits Host.bare h).2 _ _ rfl rfl, by decide +kernel⟩

end PpiDump
