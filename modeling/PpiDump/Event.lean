import PpiDump.ExitStatus
import PpiDump.Text.Quoted

namespace PpiDump

/-- What is logged. A quiet converter leaves progress out, but never a warning. Not kept here are
what is logged for debugging, and two warnings that change nothing of what is read: that a line of a
producer was no UTF-8, and that its end could not be waited for. -/
inductive Event where
  | linesRead (n : Nat)
  | analyzing
  | generating
  | writing
  | badLine (number : Nat) (line : Text)
  | producerFailed (status : ExitStatus)
  deriving DecidableEq, Repr

namespace Event

def isWarning : Event → Bool
  | badLine .. | producerFailed _ => true
  | _ => false

def message : Event → Text
  | linesRead n => Text.ofNat n ++ " lines read".toList
  | analyzing => "Phase 1: Analyze lexical structure".toList
  | generating => "Phase 2: Calling all converters".toList
  | writing => "Phase 3: Writing source".toList
  | badLine _ line => "BAD: ".toList ++ Text.quoted line
  | producerFailed _ => "dump producer failed".toList

end Event

end PpiDump
