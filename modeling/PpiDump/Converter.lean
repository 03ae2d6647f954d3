import PpiDump.Builder
import PpiDump.Producer.Dumper
import PpiDump.Translator.Echo
import PpiDump.Tree.Outline
import PpiDump.Tree.Walk

namespace PpiDump

def openTag : Text := "<?php\n".toList

structure Conversion where
  output : Text
  stats : Stats
  deriving DecidableEq, Repr

/-- Reading replaces the document, unless it fails. Converting may be done any number of times. -/
structure Converter (σ : Type) where
  translator : Translator σ
  state : σ
  options : Options := {}
  document? : Option Document := none
  stats : Stats := {}

/-- What an operation of a converter comes to: the converter afterwards, which also a failure may
have changed, what was logged, and the answer. -/
structure Outcome (σ α : Type) where
  converter : Converter σ
  events : List Event := []
  result : Except Error α

variable {σ α β : Type}

namespace Outcome

def andThen (o : Outcome σ α) (next : Converter σ → α → Outcome σ β) : Outcome σ β :=
  match o.result with
  | .error e => ⟨o.converter, o.events, .error e⟩
  | .ok a =>
    let o' := next o.converter a
    { o' with events := o.events ++ o'.events }

end Outcome

namespace Converter

def setQuiet (c : Converter σ) (quiet : Bool) : Converter σ :=
  { c with options := { c.options with quiet } }

def progress (c : Converter σ) (e : Event) : List Event :=
  if c.options.quiet then [] else [e]

def read (c : Converter σ) (t : Transcript) : Outcome σ Unit :=
  match ({} : Builder).feed t.items with
  | (b, some e) => ⟨c, b.warnings, .error e⟩
  | (b, none) =>
    let events := b.warnings ++ t.failure.toList.map .producerFailed
    match b.finish with
    | .error e => ⟨c, events, .error e⟩
    | .ok (tree, stats) =>
      ⟨{ c with document? := some (.ofTree tree), stats },
        events ++ c.progress (.linesRead stats.linesRead), .ok ()⟩

def readLines (c : Converter σ) (lines : List Text) : Outcome σ Unit :=
  c.read (.ofLines lines)

/-- When enough of a transcript has been read: all of it, or a line that is an error. -/
def timeToRead (t : Transcript) : Nat :=
  match ({} : Builder).feed t.items with
  | (_, none) => t.finished
  | (_, some _) => t.timeAfter (({} : Builder).taken t.items)

def readSource {m : Type → Type} [Monad m] (host : Host m) (c : Converter σ) (source : Bytes) :
    m (Outcome σ Unit) := do
  match ← c.options.dumper.dump host source with
  | .ok t =>
    host.release (timeToRead t)
    return c.read t
  | .error e => return ⟨c, [], .error e⟩

def visitAll (c : Converter σ) (d : Document) (visit : Visit σ) (hs : List Handle)
    (events : List Event) : Outcome σ Document :=
  match visit.run d.tree hs ⟨c.state, d.notes⟩ with
  | (draft, failed) =>
    let d := { d with notes := draft.notes }
    ⟨{ c with state := draft.state, document? := some d }, events,
      match failed with
      | none => .ok d
      | some e => .error e⟩

def analyze (c : Converter σ) (d : Document) : Outcome σ Document :=
  c.visitAll d c.translator.analyze d.tree.preorder (c.progress .analyzing)

def assemble (c : Converter σ) (d : Document) : Except Error Text :=
  match d.tree.root? with
  | none => .error .noDocument
  | some h =>
    match d.tree.unfolding? h with
    | some b =>
      .ok (openTag ++ b.wrap (c.translator.ahead c.state d) (c.translator.behind c.state d))
    | none => .error .endless

def generate (c : Converter σ) (d : Document) : Outcome σ Conversion :=
  (c.visitAll d c.translator.generate d.tree.flat (c.progress .generating)).andThen fun c d ↦
    ⟨c, c.progress .writing, (c.assemble d).map fun output ↦ ⟨output, c.stats⟩⟩

def writeOutline {m : Type → Type} [Monad m] (host : Host m) (c : Converter σ) (d : Document) :
    m (Except Error Unit) := do
  match c.options.debugDump with
  | none => return .ok ()
  | some path =>
    match d.tree.outline with
    | .error e => return .error e
    | .ok text =>
      if ← host.writeFile path (Utf8.encode text) then return .ok ()
      else return .error .fileFailure

/-- Converts the document. The outline is written after analysis and before generation. -/
def convert {m : Type → Type} [Monad m] (host : Host m) (c : Converter σ) :
    m (Outcome σ Conversion) := do
  match c.document? with
  | none => return ⟨c, [], .error .noDocument⟩
  | some d =>
    let analyzed := c.analyze d
    match analyzed.result with
    | .error e => return ⟨analyzed.converter, analyzed.events, .error e⟩
    | .ok d =>
      match ← analyzed.converter.writeOutline host d with
      | .error e => return ⟨analyzed.converter, analyzed.events, .error e⟩
      | .ok () => return analyzed.andThen fun c d ↦ c.generate d

end Converter

def Converter.echo (options : Options) : Converter Unit :=
  { translator := .echo, state := (), options }

def convertDump {m : Type → Type} [Monad m] (host : Host m) (text : Text) (options : Options) :
    m (Outcome Unit Conversion) := do
  let read := (Converter.echo options).readLines text.lines
  match read.result with
  | .error e => return ⟨read.converter, read.events, .error e⟩
  | .ok () =>
    let done ← read.converter.convert host
    return { done with events := read.events ++ done.events }

def convertSource {m : Type → Type} [Monad m] (host : Host m) (source : Bytes)
    (options : Options) : m (Outcome Unit Conversion) := do
  let read ← (Converter.echo options).readSource host source
  match read.result with
  | .error e => return ⟨read.converter, read.events, .error e⟩
  | .ok () =>
    let done ← read.converter.convert host
    return { done with events := read.events ++ done.events }

end PpiDump
