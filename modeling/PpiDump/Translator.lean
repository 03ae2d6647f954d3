import PpiDump.Document

namespace PpiDump

structure Draft (σ : Type) where
  state : σ
  notes : Notes

/-- A visit to a node. Also a failed visit may have left changes. -/
abbrev Visit (σ : Type) := Tree → Handle → Draft σ → Draft σ × Option Error

/-- What to note at each node. Analysis visits every node before generation visits any. What a node
contributes to the result is read off afterwards. -/
structure Translator (σ : Type) where
  analyze : Visit σ
  generate : Visit σ
  ahead : σ → Document → Handle → Text := fun _ d h ↦ (d.notes.note h).output.getD []
  behind : σ → Document → Handle → Text := fun _ d h ↦ (d.notes.note h).closing.getD []

variable {σ : Type}

def Visit.run (visit : Visit σ) (t : Tree) : List Handle → Draft σ → Draft σ × Option Error
  | [], draft => (draft, none)
  | h :: hs, draft =>
    match visit t h draft with
    | (draft, none) => run visit t hs draft
    | (draft, some e) => (draft, some e)

end PpiDump
