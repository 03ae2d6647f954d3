import PpiDump.ExitStatus

namespace PpiDump

abbrev Signal := Nat

namespace Signal

def names : List (Signal × Text) :=
  ["HUP", "INT", "QUIT", "ILL", "TRAP", "ABRT", "BUS", "FPE", "KILL", "USR1", "SEGV", "USR2",
    "PIPE", "ALRM", "TERM", "STKFLT", "CHLD", "CONT", "STOP", "TSTP", "TTIN", "TTOU", "URG",
    "XCPU", "XFSZ", "VTALRM", "PROF", "WINCH", "IO", "PWR", "SYS"].mapIdx
    fun i name ↦ (i + 1, name.toList)

def kill : Signal := 9

def segmentation : Signal := 11

def pipe : Signal := 13

def terminate : Signal := 15

def last : Signal := 64

def realTime (s : Signal) : Text :=
  if s = 34 then "RTMIN".toList
  else if s = 64 then "RTMAX".toList
  else if 34 < s && s ≤ 49 then "RTMIN+".toList ++ Text.ofNat (s - 34)
  else if 49 < s && s < 64 then "RTMAX-".toList ++ Text.ofNat (64 - s)
  else Text.ofNat s

def name (s : Signal) : Text :=
  ((names.find? fun e ↦ e.1 = s).map Prod.snd).getD (realTime s)

/-- A signal by its number or by its name in letters of either case. Zero is no signal, but may be
sent. -/
def ofText? (t : Text) : Option Signal :=
  if !t.isEmpty && t.all Char.isDigit then
    if Text.ofDigits t ≤ last then some (Text.ofDigits t) else none
  else
    (List.range (last + 1)).find? fun s ↦ 0 < s && name s = t.map Char.toUpper

inductive Effect where
  | ends | stops | nothing
  deriving DecidableEq, Repr

def effect (s : Signal) : Effect :=
  if s = 0 || s = 17 || s = 18 || s = 23 || s = 28 then .nothing
  else if 19 ≤ s && s ≤ 22 then .stops
  else .ends

def isAbsolute (s : Signal) : Bool := s = kill || s = 19

def status (s : Signal) : ExitStatus :=
  .signal s (((names.find? fun e ↦ e.1 = s).map fun e ↦ "SIG".toList ++ e.2).getD [])

end Signal

end PpiDump
