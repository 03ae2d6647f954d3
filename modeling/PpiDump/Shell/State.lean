import PpiDump.Process.Basic
import PpiDump.Shell.Pattern
import PpiDump.Shell.Arithmetic

namespace PpiDump.Shell

structure Variable where
  name : Text
  value : Option Text
  exported : Bool := false
  fixed : Bool := false
  /-- The elements of a list by their places, of which the first is the value too. -/
  elements : List (Text × Text) := []

structure ShellCore where
  context : Context
  number : Nat
  dialect : Dialect := .plain
  name : Text
  args : List Text := []
  vars : List Variable := []
  functions : List (Text × Command) := []
  aliases : List (Text × Text) := []
  flags : List Char := []
  directory : Text := Files.home.text
  status : Nat := 0
  outputStatus : Option Nat := none
  lastJob : Option Nat := none
  traps : List (Signal × Text) := []
  frames : List (List (Text × Option Variable)) := []
  loops : Nat := 0
  sources : Nat := 0
  line : Nat := 1
  lineRead : Nat := 1
  mask : Nat := 18
  known : List Text := []
  command : Text := []
  inputs : List (Nat × Word) := []
  nextInput : Nat := 0
  /-- What is kept open to be given back after redirections, by descriptor. -/
  saved : List (Nat × Nat) := []
  optionPlace : Nat := 1

structure Job where
  process : Nat
  ending : Option (Nat × ExitStatus)
  /-- For one that runs beside the shell: the shell that it began as, what it runs, and the signals
  that were sent to it. -/
  start : Option (ShellCore × Command) := none
  sent : List Sent := []
  gone : Bool := false

/-- A shell that runs a script, as a surrogate for the one of the system. -/
structure State extends ShellCore where
  jobs : List Job := []

structure Manner where
  tested : Bool := false
  last : Bool := false

namespace Manner

def asked : Manner := { tested := true }

def inside (m : Manner) : Manner := { m with last := false }

end Manner

inductive Stop where
  | exit
  | failed
  | leaveLoops (n : Nat)
  | nextRound (n : Nat)
  | leaveFunction
  | replaced (status : ExitStatus)
  | killed (s : Signal)
  /-- It is never done. -/
  | stuck

abbrev ShellM := ExceptT Stop (StateM State)

structure Engine where
  run : Manner → Command → ShellM Unit

namespace ShellM

def system {α : Type} (p : ProcessM α) : ShellM α := do
  let s ← get
  let (a, c) := p s.context
  set { s with context := c }
  if c.process.stuck then throw .stuck else return a

def setStatus (n : Nat) : ShellM Unit := modify fun s ↦ { s with status := n }

def answer (b : Bool) : ShellM Unit := setStatus (if b then 0 else 1)

def isExtended : ShellM Bool := return (← get).dialect = .extended

def complain (message : Text) : ShellM Unit := do
  let s ← get
  let place := s.name ++ (if s.dialect = .extended then ": line " else ": ").toList ++
    Text.ofNat s.line ++ ": ".toList
  let command := if s.command.isEmpty then [] else s.command ++ ": ".toList
  let _ ← system (ProcessM.put 2 (place ++ command ++ message ++ ['\n']))

/-- Ends the shell, or the command that is not of its core, with a message. -/
def failWith {α : Type} (message : Text) : ShellM α := do
  complain message
  setStatus 2
  throw .failed

def put (t : Text) : ShellM Unit := do
  if !t.isEmpty then
    match ← system (ProcessM.put 1 t) with
    | .ok () => return
    | .error _ =>
      complain "I/O error".toList
      setStatus 1

def putLine (t : Text) : ShellM Unit := put (t ++ ['\n'])

def spend : ShellM Unit := do
  let c := (← get).context
  if c.machine.work = 0 || c.machine.horizon < c.process.clock then throw .stuck
  else modify fun s ↦
    { s with context.machine.work := s.context.machine.work - 1 }

def hasFlag (c : Char) : ShellM Bool := return (← get).flags.contains c

end ShellM

namespace State

def find? (s : State) (name : Text) : Option Variable := s.vars.find? (·.name = name)

def replaceVariable (v : Variable) : List Variable → List Variable
  | [] => [v]
  | w :: ws => if w.name = v.name then v :: ws else w :: replaceVariable v ws

def putVariable (s : State) (v : Variable) : State :=
  { s with vars := replaceVariable v s.vars }

def removeVariable (s : State) (name : Text) : State :=
  { s with vars := s.vars.filter (·.name ≠ name) }

def splitIndex (name : Text) : Text × Option Text :=
  let base := name.takeWhile (· ≠ '[')
  match name.drop base.length with
  | '[' :: index => (base, some index.dropLast)
  | _ => (name, none)

def lineNumber : Text := "LINENO".toList

def setting? (s : State) (name : Text) : Option Text :=
  if name = lineNumber && s.dialect = .extended then some (Text.ofNat s.line)
  else (s.find? name).bind Variable.value

def separators (s : State) : Text := (s.setting? "IFS".toList).getD " \t\n".toList

def joiner (s : State) : Text := s.separators.take 1

def flagLetters (s : State) : Text :=
  match s.dialect with
  | .plain => s.flags.reverse
  | .extended => "abefhkmnptuvxBCEHPT".toList.filter fun c ↦
      c = 'h' || c = 'B' || s.flags.contains c

def parameter? (s : State) (name : Text) : Option Text :=
  match name with
  | ['#'] => some (Text.ofNat s.args.length)
  | ['?'] => some (Text.ofNat s.status)
  | ['$'] => some (Text.ofNat s.number)
  | ['!'] => s.lastJob.map Text.ofNat
  | ['-'] => some s.flagLetters
  | ['@'] | ['*'] => if s.args.isEmpty then none else some (Text.join s.joiner s.args)
  | _ =>
    if name.all Char.isDigit then
      match Text.ofDigits name with
      | 0 => some s.name
      | n + 1 => s.args[n]?
    else
      match splitIndex name with
      | (_, none) => s.setting? name
      | (base, some index) =>
        (s.find? base).bind fun v ↦
          (v.elements.find? fun e ↦ e.1 = index).map Prod.snd

end State

namespace ShellM

def setVariable (name value : Text) : ShellM Unit := do
  let s ← get
  let old := (s.find? name).getD { name, value := none }
  if old.fixed then failWith (name ++ ": is read only".toList)
  else
    let elements := if old.elements.isEmpty then [] else
      (['0'], value) :: old.elements.filter (·.1 ≠ ['0'])
    let exported := old.exported || s.flags.contains 'a'
    set (s.putVariable { old with value := some value, elements, exported })
    if name = "OPTIND".toList then modify fun s ↦ { s with optionPlace := 1 }
    if name = "PATH".toList then modify fun s ↦ { s with known := [] }

def unsetVariable (name : Text) : ShellM Unit := do
  let s ← get
  match s.find? name with
  | some v =>
    if v.fixed then failWith (name ++ ": is read only".toList) else set (s.removeVariable name)
  | none => return

def hideVariable (name : Text) : ShellM Unit := do
  let s ← get
  match s.frames with
  | frame :: frames =>
    if frame.any (·.1 = name) then return
    else set { s with frames := ((name, s.find? name) :: frame) :: frames }
  | [] => return

def restoreFrame : ShellM Unit := do
  let s ← get
  match s.frames with
  | frame :: frames =>
    let s := frame.foldl (fun s (name, old) ↦
      match old with
      | some v => s.putVariable v
      | none => s.removeVariable name) s
    set { s with frames }
  | [] => return

end ShellM

namespace State

def trap? (s : State) (n : Signal) : Option Text :=
  (s.traps.find? fun t ↦ t.1 = n).map Prod.snd

def isMine (s : State) (sent : Sent) : Bool := sent.receiver = s.context.process.number

def isFatal (s : State) (n : Signal) : Bool :=
  n.effect ≠ .nothing && (n.isAbsolute || (s.trap? n).isNone)

def fatal? (s : State) (time : Option Nat) : Option Sent :=
  s.context.machine.signals.find? fun sent ↦
    s.isMine sent && time.all (sent.time ≤ ·) && s.isFatal sent.signal

end State

namespace ShellM

def die (sent : Sent) : ShellM Unit := do
  system (ProcessM.waitUntil sent.time)
  if sent.signal.effect = .stops then throw .stuck else throw (.killed sent.signal)

def await (ending : Option (Nat × ExitStatus)) : ShellM ExitStatus := do
  match (← get).fatal? (ending.map Prod.fst), ending with
  | some sent, _ =>
    die sent
    throw .stuck
  | none, some (time, status) =>
    system (ProcessM.waitUntil time)
    return status
  | none, none => throw .stuck

end ShellM

end PpiDump.Shell
