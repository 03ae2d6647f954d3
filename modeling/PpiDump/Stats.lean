namespace PpiDump

structure Stats where
  linesRead : Nat := 0
  linesSkipped : Nat := 0
  nodes : Nat := 0
  deriving DecidableEq, Repr, Inhabited

namespace Stats

def countLine (s : Stats) : Stats := { s with linesRead := s.linesRead + 1 }

def countSkipped (s : Stats) : Stats := { s with linesSkipped := s.linesSkipped + 1 }

def countNode (s : Stats) : Stats := { s with nodes := s.nodes + 1 }

end Stats

end PpiDump
