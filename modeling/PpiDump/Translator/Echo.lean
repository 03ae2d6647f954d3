import PpiDump.Translator

namespace PpiDump.Translator

namespace Echo

def pathKey : Text := "path".toList

def path (t : Tree) (ns : Notes) (h : Handle) : Text :=
  match t.parent? h with
  | none => ['0']
  | some p =>
    let place := ((t.children p).idxOf? h).getD 0
    ((ns.note p).find? pathKey).getD [] ++ ['.'] ++ Text.ofNat place

/-- What a payload leaves in a note. An empty one leaves it as it was. -/
def write (n : Note) : Payload → Note
  | .empty => n
  | .text content => { n with output := some content }
  | .delimiters opening closing => { n with output := some [opening], closing := some [closing] }

end Echo

variable {σ : Type}

def echo : Translator σ where
  analyze t h d :=
    let path := Echo.path t d.notes h
    ({ d with notes := d.notes.update h (·.set Echo.pathKey path) }, none)
  generate t h d :=
    match t.get? h with
    | some node => ({ d with notes := d.notes.update h (Echo.write · node.payload) }, none)
    | none => (d, none)

end PpiDump.Translator
