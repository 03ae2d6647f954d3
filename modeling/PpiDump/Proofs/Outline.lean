import PpiDump.Converter
import PpiDump.Proofs.Forest
import PpiDump.Proofs.Listings

namespace PpiDump

namespace Tree

theorem linked_confirms {ns : List Node} {b : Branch} (hb : b.Unfolds (linked ns)) :
    ∀ l ∈ b.listings, (linked ns).Confirms l := by
  intro l hl
  obtain ⟨lister, -, hlister, hmem, -⟩ := hb.of_listing hl
  rw [linked_get?] at hlister
  obtain ⟨x, -, rfl⟩ := Option.map_eq_some_iff.mp hlister
  obtain ⟨-, hparent⟩ := Levels.mem_children.mp (by simpa [Levels.link] using hmem)
  rw [Confirms, linked_parent?]
  exact hparent

theorem linked_outline {ns : List Node} (hs : Levels.Stepped (levelsOf ns)) (hne : ns ≠ []) :
    (linked ns).outline = .ok ((List.range ns.length).flatMap (linked ns).outlineAt) := by
  obtain ⟨b, -, hb, hhandle, hpreorder⟩ := linked_branch hs hne
  have hroot : (linked ns).root? = some b.handle := hhandle ▸ linked_root?_of_ne_nil hne
  rw [← hpreorder]
  exact outline_of_confirms hroot hb (linked_confirms hb)

end Tree

variable {m : Type → Type} [Monad m] {α β : Type}

/-- Either of two ends: if an outline is asked for, writing it decides which one. -/
def Options.outlined (options : Options) (host : Host m) (text : Text) (done failed : α) : m α :=
  match options.debugDump with
  | none => pure done
  | some path => do
    if ← host.writeFile path (Utf8.encode text) then return done
    else return failed

namespace Options

variable {options : Options} {host : Host m} {text : Text} {done failed : α}

theorem outlined_none (h : options.debugDump = none) :
    options.outlined host text done failed = pure done := by
  rw [outlined, h]

theorem outlined_bind [LawfulMonad m] {f : α → m β} {done' failed' : β}
    (hdone : f done = pure done') (hfailed : f failed = pure failed') :
    options.outlined host text done failed >>= f = options.outlined host text done' failed' := by
  unfold outlined
  cases options.debugDump with
  | none => rw [pure_bind, hdone]
  | some path =>
    simp only [bind_assoc]
    congr 1
    funext written
    cases written <;> simp [hdone, hfailed]

end Options

theorem Converter.writeOutline_ok {σ : Type} (host : Host m) (c : Converter σ) {d : Document}
    {text : Text} (h : d.tree.outline = .ok text) :
    c.writeOutline host d = c.options.outlined host text (.ok ()) (.error .fileFailure) := by
  unfold writeOutline Options.outlined
  cases c.options.debugDump with
  | none => rfl
  | some path => simp only [h]

theorem Converter.convert_outlined [LawfulMonad m] {σ : Type} (host : Host m)
    {c c' : Converter σ} {d d' : Document} {events : List Event} {text : Text}
    (hdocument : c.document? = some d) (hanalyze : c.analyze d = ⟨c', events, .ok d'⟩)
    (houtline : d'.tree.outline = .ok text) :
    c.convert host = c'.options.outlined host text
      ((c.analyze d).andThen fun c d ↦ c.generate d) ⟨c', events, .error .fileFailure⟩ := by
  simp only [convert, hdocument, hanalyze]
  rw [writeOutline_ok host c' houtline]
  exact Options.outlined_bind rfl rfl

end PpiDump
