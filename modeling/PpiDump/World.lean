import PpiDump.Host
import PpiDump.Shell.Run

namespace PpiDump

/-- Surroundings to run in where there are no real ones. The files and the standard output behave as
those of a system do. All that concerns programs is a surrogate: the shell and the tools that every
system has are written out anew, as far as scripts of dumpers need them, and are no part of the
program itself. No result is about them. What is proved holds for any host, or for any that deals
with its files as it should. -/
structure World where
  files : Files := {}
  printed : Bytes := []
  started : Nat := 0
  births : List Birth := []
  nextProcess : Nat := 4711

namespace World

def now (w : World) : Nat := w.files.standpoint.time

open Shell (ShellM Variable)

/-- Whether the system can start the file at a path: a program, or a script whose first line names
something that it can start. -/
def isStartable (fs : Files) : Nat → Text → Bool
  | 0, _ => false
  | fuel + 1, t =>
    match fs.find Files.home t, fs.locate Files.home t with
    | .ok (.file f), .ok path =>
      f.executable &&
        ((SystemFiles.entry? path).isSome && f.content.isEmpty ||
          match ShellM.interpreter? f.content.toChars with
          | some (program :: _) => isStartable fs fuel (Utf8.decode (Bytes.ofChars program))
          | _ => false)
    | _, _ => false

def searchPath : List String :=
  ["/usr/local/sbin", "/usr/local/bin", "/usr/sbin", "/usr/bin", "/sbin", "/bin"]

def resolve? (fs : Files) (program : Text) : Option Text :=
  let candidates := if program.contains '/' then [program]
    else searchPath.map fun dir ↦ dir.toList ++ '/' :: program
  candidates.find? (isStartable fs 5)

def environment : List (String × Text) :=
  [("PATH", Text.join [':'] (searchPath.map String.toList)), ("HOME", "/root".toList),
    ("PWD", Files.home.text)]

/-- The number of commands that a program may run. One that runs more is taken to be never done. -/
def workLimit : Nat := 3000000

def timeLimit : Nat := 20000

structure Foreseen where
  files : List (Change Path (Option Entry)) := []
  positions : List (Change Nat Nat) := []
  deriving DecidableEq

def boot (w : World) (foreseen : Foreseen) : Context :=
  let m : Machine := {
    files := { w.files with history := { w.files.history with foreseen := foreseen.files } }
    positions := { foreseen := foreseen.positions }
    births := w.births, nextProcess := w.nextProcess
    work := workLimit, horizon := w.now + timeLimit }
  let (_, _, inlet, m) := m.connect
  let (null, m) := m.newOpen { channel := .device .null }
  { machine := { m with nextProcess := m.nextProcess + 1 }
    process := {
      number := m.nextProcess, job := m.nextProcess, clock := w.now
      descriptors := [(0, null), (1, inlet), (2, null)] } }

def follow (w : World) (program : Text) (args : List Text) (foreseen : Foreseen) :
    ProgramRun × Machine :=
  let c := boot w foreseen
  let start := w.now
  let m := Shell.machinery Shell.nestingLimit
  let shell : Shell.State := {
    context := c, number := c.process.number, name := program
    vars := environment.map fun v ↦
      { name := v.1.toList, value := some v.2, exported := true } }
  let (result, shell) := ShellM.becomeProgram m.become m.engine .shell (program :: args) shell
  let stuck (c : Context) : Context := { c with process := { c.process with stuck := true } }
  let (status, c) : Option ExitStatus × Context := match result with
    | .error (.replaced status) => (some status, shell.context)
    | .error (.killed n) => (some n.status, shell.context)
    | .error .stuck => (none, stuck shell.context)
    | _ => (some (.code shell.status), shell.context)
  let (_, c) := ProcessM.leave shell.saved c
  let output := (c.machine.pipes[0]?).getD {}
  ({ writes := output.inflow.map fun w ↦ (w.1 - start, Bytes.ofChars w.2)
     closed := output.closed?.map (· - start)
     ending := status.map fun status ↦ (c.process.clock - start, status) },
    c.machine)

/-- Follows a program until all that run side by side know what the others change. -/
def settle (w : World) (program : Text) (args : List Text) :
    Nat → Foreseen → ProgramRun × Machine
  | 0, foreseen => w.follow program args foreseen
  | fuel + 1, foreseen =>
    let (run, m) := w.follow program args foreseen
    let made : Foreseen :=
      ⟨m.files.history.madeFrom w.nextProcess, m.positions.madeFrom w.nextProcess⟩
    if made = foreseen || !m.births.any (w.nextProcess ≤ ·.process) then (run, m)
    else settle w program args fuel made

/-- Follows a program in place of starting it. -/
def launch (w : World) (program : Text) (args : List Bytes) : Option (ProgramRun × World) :=
  (resolve? w.files program).map fun _ ↦
    let (r, m) := w.settle (Utf8.encode program).toChars (args.map Bytes.toChars) 6 {}
    (r, { w with
      files := { m.files with
        history := m.files.history.settled, standpoint := { time := w.now } }
      started := w.now, births := m.births, nextProcess := m.nextProcess })

def delay : Nat := 5

/-- Lets go of the latest program at a time after its start. What only it could have changed later
is not changed. -/
def release (w : World) (time : Nat) : World :=
  let time := w.started + time + delay
  let history := w.files.history.withdraw fun s ↦
    time < s.time && !Machine.isBeside w.births time s.process
  { w with files := { w.files with history, standpoint := { time } } }

def writeFile (w : World) (path : Text) (content : Bytes) : Bool × World :=
  match w.files.locate Files.home path with
  | .error _ => (false, w)
  | .ok p =>
    match w.files.entry? p with
    | some .directory => (false, w)
    | some (.device d) => (d ≠ .full || content.isEmpty, w)
    | some (.descriptor n) =>
      if n = 1 then (true, { w with printed := w.printed ++ content }) else (n ≤ 2, w)
    | _ =>
      if w.files.isWritable p then (true, { w with files := w.files.write p content })
      else (false, w)

def host : Host (StateM World) where
  readFile path := fun w ↦ (w.files.read? path, w)
  writeFile path content := fun w ↦ w.writeFile path content
  launch program args := fun w ↦
    match w.launch program args with
    | some (r, w) => (some r, w)
    | none => (none, w)
  release time := fun w ↦ ((), w.release time)
  print t := fun w ↦ ((), { w with printed := w.printed ++ Utf8.encode t })
  log _ := fun w ↦ ((), w)

end World

end PpiDump
