import PpiDump.Text.Blank

namespace PpiDump

structure Record where
  level : Nat
  kind : Text
  content : Text
  deriving DecidableEq, Repr

namespace Record

/-- Reads a line, whose blanks at the end do not count. Two characters of indent make a level, and
an odd one is dropped. -/
def ofLine? (line : Text) : Option Record :=
  let line := Text.trimEnd line
  let indent := line.takeWhile Text.isBlank
  let body := line.dropWhile Text.isBlank
  let kind := body.takeWhile (!Text.isBlank ·)
  if kind.isEmpty then none
  else some {
    level := indent.length / 2
    kind
    content := (body.dropWhile (!Text.isBlank ·)).dropWhile Text.isBlank }

def hasNewlineEscape (r : Record) : Bool := Text.hasPart ['\\', 'n'] r.content

end Record

end PpiDump
