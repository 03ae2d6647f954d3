import PpiDump.Converter

namespace PpiDump

structure Revision (σ : Type) where
  state : σ
  document : Document

namespace Reviser

abbrev Visit (σ : Type) := Handle → Revision σ → Revision σ × Option Error

inductive Method where
  | analyze | generate | ahead | behind
  deriving DecidableEq, Repr

structure Call where
  method : Method
  handle : Handle
  document : Document
  deriving DecidableEq, Repr

end Reviser

/-- A translator with the whole document in its hands. A visit may change the tree as well as the
notes, so each phase takes its order from the tree that it finds. -/
structure Reviser (σ : Type) where
  analyze : Reviser.Visit σ
  generate : Reviser.Visit σ
  ahead : σ → Document → Handle → Text := fun _ d h ↦ (d.notes.note h).output.getD []
  behind : σ → Document → Handle → Text := fun _ d h ↦ (d.notes.note h).closing.getD []

variable {σ α β : Type}

def Visit.revise (visit : Visit σ) : Reviser.Visit σ := fun h r ↦
  match visit r.document.tree h ⟨r.state, r.document.notes⟩ with
  | (draft, failed) => (⟨draft.state, { r.document with notes := draft.notes }⟩, failed)

def Translator.reviser (tr : Translator σ) : Reviser σ where
  analyze := tr.analyze.revise
  generate := tr.generate.revise
  ahead := tr.ahead
  behind := tr.behind

namespace Tree

def named? (t : Tree) (h : Handle) : Option Handle :=
  (t.get? h).bind fun node ↦ if node.id = 0 then none else some node.handle

/-- The order of analysis, unless the lists of children have no end. -/
def treeOrder? (t : Tree) : Option (List Handle) :=
  match t.root? with
  | none => some []
  | some h => (t.unfolding? h).bind fun b ↦ b.preorder.mapM t.named?

/-- The order of generation, unless the links have no end. More nodes than there are is no end. -/
def flatOrder? (t : Tree) : Option (List Handle) :=
  let hs := PpiDump.follow t.next? (t.size + 1) t.root?
  if hs.length ≤ t.size then hs.mapM t.named? else none

end Tree

namespace Branch

mutual

def calls (d : Document) : Branch → List Reviser.Call
  | node h bs => ⟨.ahead, h, d⟩ :: allCalls d bs ++ [⟨.behind, h, d⟩]

def allCalls (d : Document) : List Branch → List Reviser.Call
  | [] => []
  | b :: bs => calls d b ++ allCalls d bs

end

end Branch

structure Course (σ α : Type) extends Outcome σ α where
  calls : List Reviser.Call := []

def Course.andThen (o : Course σ α) (next : Converter σ → α → Course σ β) : Course σ β :=
  match o.result with
  | .error e => { converter := o.converter, events := o.events, result := .error e, calls := o.calls }
  | .ok a =>
    let o' := next o.converter a
    { o' with events := o.events ++ o'.events, calls := o.calls ++ o'.calls }

def Reviser.Visit.run (visit : Reviser.Visit σ) (method : Reviser.Method) :
    List Handle → Revision σ → Revision σ × List Reviser.Call × Option Error
  | [], r => (r, [], none)
  | h :: hs, r =>
    let call : Reviser.Call := ⟨method, h, r.document⟩
    match visit h r with
    | (r, some e) => (r, [call], some e)
    | (r, none) =>
      match run visit method hs r with
      | (r, calls, failed) => (r, call :: calls, failed)

namespace Converter

def pass (c : Converter σ) (visit : Reviser.Visit σ) (method : Reviser.Method) (e : Event)
    (order? : Option (List Handle)) (d : Document) : Course σ Document :=
  match order? with
  | none => { converter := c, events := c.progress e, result := .error .endless }
  | some hs =>
    match visit.run method hs ⟨c.state, d⟩ with
    | (r, calls, failed) => {
      converter := { c with state := r.state, document? := some r.document }
      events := c.progress e
      result :=
        match failed with
        | none => .ok r.document
        | some e => .error e
      calls }

/-- The result is put together from the node that was the root at first. -/
def assembleBy (c : Converter σ) (tr : Reviser σ) (root : Handle) (d : Document) :
    Course σ Conversion :=
  match d.tree.unfolding? root with
  | none => { converter := c, events := c.progress .writing, result := .error .endless }
  | some b => {
    converter := c
    events := c.progress .writing
    result := .ok ⟨openTag ++ b.wrap (tr.ahead c.state d) (tr.behind c.state d), c.stats⟩
    calls := b.calls d }

def generateBy (c : Converter σ) (tr : Reviser σ) (root : Handle) (d : Document) :
    Course σ Conversion :=
  (c.pass tr.generate .generate .generating d.tree.flatOrder? d).andThen fun c d ↦
    c.assembleBy tr root d

/-- Converts the document by a reviser, in place of the converter's own translator. -/
def convertBy {m : Type → Type} [Monad m] (host : Host m) (tr : Reviser σ) (c : Converter σ) :
    m (Course σ Conversion) := do
  match c.document? with
  | none => return { converter := c, result := .error .noDocument }
  | some d =>
    match d.tree.root? with
    | none => return { converter := c, result := .error .noDocument }
    | some root =>
      let analyzed := c.pass tr.analyze .analyze .analyzing d.tree.treeOrder? d
      match analyzed.result with
      | .error e => return { analyzed with result := .error e }
      | .ok d =>
        match ← analyzed.converter.writeOutline host d with
        | .error e => return { analyzed with result := .error e }
        | .ok () => return analyzed.andThen fun c d ↦ c.generateBy tr root d

end Converter

end PpiDump
