import PpiDump.Text.Basic

namespace PpiDump

inductive ExitStatus where
  | code (n : Nat)
  | signal (number : Nat) (name : Text)
  deriving DecidableEq, Repr

namespace ExitStatus

def isSuccess : ExitStatus → Bool
  | code 0 => true
  | _ => false

def text : ExitStatus → Text
  | code n => "exit status: ".toList ++ Text.ofNat n
  | signal n [] => "signal: ".toList ++ Text.ofNat n
  | signal n name => "signal: ".toList ++ Text.ofNat n ++ " (".toList ++ name ++ ")".toList

def number : ExitStatus → Nat
  | code n => n
  | signal n _ => 128 + n

end ExitStatus

end PpiDump
