import PpiDump.Translator.Echo

namespace PpiDump.Translator

inductive Call where
  | analyze (id : Nat)
  | generate (id : Nat)
  deriving DecidableEq, Repr

namespace Probe

def idAt (t : Tree) (h : Handle) : Nat := ((t.get? h).map Node.id).getD 0

def idText (t : Tree) (h : Handle) : Text := Text.ofNat (idAt t h)

def seenKey : Text := "seen".toList

end Probe

variable {σ : Type}

def mark : Translator σ where
  analyze t h d :=
    ({ d with notes := d.notes.update h (·.set Probe.seenKey (Probe.idText t h)) }, none)
  generate t h d :=
    let id := Probe.idText t h
    ({ d with
        notes := d.notes.update h fun n ↦
          { n with output := some ('[' :: id), closing := some (id ++ [']']) } },
      none)

def failVisit (label : String) (id? : Option Nat) (visit : Visit σ) : Visit σ := fun t h d ↦
  if id? = some (Probe.idAt t h) then
    (d, some (.unknownKind (label.toList ++ [' '] ++ Probe.idText t h)))
  else visit t h d

/-- Fails at the given nodes, in place of analysis or of generation. -/
def failing (analyzeAt generateAt : Option Nat) (tr : Translator σ) : Translator σ where
  analyze := failVisit "analyze" analyzeAt tr.analyze
  generate := failVisit "generate" generateAt tr.generate
  ahead := tr.ahead
  behind := tr.behind

end PpiDump.Translator
