import PpiDump.Producer.Transcript

namespace PpiDump

/-- What the program asks of its surroundings, for all that it does to files, other programs and its
own output. -/
structure Host (m : Type → Type) where
  readFile : Text → m (Option Bytes)
  /-- Makes `Bytes` the whole content of a file; answers whether that was possible. -/
  writeFile : Text → Bytes → m Bool
  launch : Text → List Bytes → m (Option ProgramRun)
  /-- Lets go of the program that was started last, at a time in milliseconds after its start. If it
  is still there, it is killed. -/
  release : Nat → m Unit
  print : Text → m Unit
  log : Text → m Unit

end PpiDump
