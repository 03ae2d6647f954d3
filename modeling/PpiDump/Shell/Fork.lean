import PpiDump.Shell.State

namespace PpiDump.Shell

namespace ShellM

/-- Repeats a step until it is done, with something that is carried from each to the next. A loop
that does not end in as many rounds as there is work is taken to be endless. -/
def repeatStep {α : Type} (step : α → ShellM (α × Bool)) :
    Nat → α → State → Except Stop α × State
  | 0, _, s => (.error .stuck, s)
  | fuel + 1, a, s =>
    match step a s with
    | (.error e, s) => (.error e, s)
    | (.ok (a, true), s) => (.ok a, s)
    | (.ok (a, false), s) => repeatStep step fuel a s

def roundLimit : Nat := 20000000

def untilDone {α : Type} (a : α) (step : α → ShellM (α × Bool)) : ShellM α := fun s ↦
  repeatStep step roundLimit a s

def attempt (m : ShellM Unit) : ShellM (Option Stop) := fun s ↦
  match m s with
  | (.ok (), s) => (.ok none, s)
  | (.error e, s) => (.ok (some e), s)

def finally_ {α : Type} (m : ShellM α) (after : ShellM Unit) : ShellM α := fun s ↦
  match m s with
  | (.ok a, s) => (do after; return a : ShellM α) s
  | (.error e, s) => (do after; throw e : ShellM α) s

def readNext (r : Reading) : ShellM (Option (List Command) × Reading) := do
  let s ← get
  let r := { r with
    aliases := if s.dialect = .plain then s.aliases else [], dialect := s.dialect, inputs := [], nextInput := s.nextInput }
  match Reader.nextLine.run r with
  | .ok (cs, r) =>
    set { s with
      inputs := r.inputs ++ s.inputs, nextInput := r.nextInput, lineRead := r.line }
    return (cs, r)
  | .error e =>
    set { s with line := e.line }
    failWith ("Syntax error: ".toList ++ e.message)

def evaluate (e : Engine) (t : Text) : ShellM Unit := do
  let rec lines : Nat → Reading → ShellM Unit
    | 0, _ => throw .stuck
    | fuel + 1, r => do
      let (cs, r) ← readNext r
      match cs with
      | none => return
      | some cs =>
        cs.forM fun c ↦ do
          if !(← hasFlag 'n') then e.run {} c
        lines fuel r
  let before := (← get).lineRead
  lines (2 * t.length + 1000) { rest := t }
  modify fun s ↦ { s with lineRead := before }

def runTrap (e : Engine) (action : Text) : ShellM Unit := do
  let before := (← get).status
  evaluate e action
  setStatus before

def answerSignals (e : Engine) : ShellM Unit := do
  let s ← get
  if s.context.machine.signals.isEmpty then return
  let now := s.context.process.clock
  let (come, others) := s.context.machine.signals.partition fun sent ↦
    s.isMine sent && sent.time ≤ now
  set { s with context.machine.signals := others }
  come.forM fun sent ↦ do
    let s ← get
    if s.isFatal sent.signal then die sent
    else
      match s.trap? sent.signal with
      | some action => if !action.isEmpty && sent.signal ≠ 0 then runTrap e action
      | none => return

def finish (e : Engine) (body : ShellM Unit) : ShellM (Option ExitStatus) := do
  let exit : ShellM (Option ExitStatus) := do
    match (← get).trap? 0 with
    | none => return some (.code (← get).status)
    | some action =>
      modify fun s ↦ { s with traps := s.traps.filter fun t ↦ t.1 ≠ 0 }
      let before := (← get).status
      match ← attempt (evaluate e action) with
      | none => return some (.code before)
      | some .exit => return some (.code (← get).status)
      | some (.killed n) => return some n.status
      | some (.replaced status) => return some status
      | some .stuck => return none
      | some _ => return some (.code (← get).status)
  match ← attempt body with
  | some (.killed n) => return some n.status
  | some (.replaced status) => return some status
  | some .stuck =>
    modify fun s ↦ { s with context.process.stuck := true }
    return none
  | some .failed =>
    if !(← isExtended) then setStatus 2
    exit
  | _ => exit

/-- A copy of the shell as a process of its own, from the present time on; `asJob` tells whether it
runs beside the shell. -/
def spawn (asJob : Bool) (s : State) : State :=
  let m := s.context.machine
  let number := m.nextProcess
  let job := if asJob then number else s.context.process.job
  let births :=
    if asJob || m.births.any (·.job = job) then
      ⟨number, job, s.context.process.clock⟩ :: m.births
    else m.births
  { s with
    context.machine := { m with nextProcess := number + 1, births }
    context.process := { s.context.process with number, job }
    traps := s.traps.filter fun t ↦ t.2.isEmpty && t.1 ≠ 0
    jobs := [] }

def complete (e : Engine) (body : ShellM Unit) (child : State) : Job × State :=
  let work := child.context.machine.work
  let (result, after) := finish e body child
  let ending : Option ExitStatus := match result with
    | .ok status => status
    | .error _ => none
  let (_, context) := ProcessM.leave after.saved after.context
  let context := if ending.isNone then { context with machine.work := work } else context
  ({ process := child.context.process.number, ending := ending.map (context.process.clock, ·) },
    { after with context })

def fork (e : Engine) (asJob : Bool) (body : ShellM Unit) : ShellM Job := fun s ↦
  let (job, child) := complete e body (spawn asJob s)
  (.ok job, { s with
    context.machine := child.context.machine, nextInput := max s.nextInput child.nextInput })

def runBeside (e : Engine) (c : Command) : ShellM Unit := do
  system (ProcessM.waitUntil ((← get).context.process.clock + 1))
  answerSignals e
  modify fun s ↦ { s with traps := [(2, []), (3, [])] ++ s.traps.filter fun t ↦ !(2 ≤ t.1 && t.1 ≤ 3) }
  system do
    match ← ProcessM.openFile .read "/dev/null".toList with
    | .ok n => ProcessM.setDescriptor 0 (some n)
    | .error _ => pure ()
  e.run { last := true } c.apart

def forkBeside (e : Engine) (c : Command) : ShellM Job := fun s ↦
  let start := spawn true s
  let (job, child) := complete e (runBeside e c) start
  (.ok { job with start := some (start.toShellCore, c) }, { s with
    context.machine := child.context.machine, nextInput := max s.nextInput child.nextInput })

/-- Has a process beside the shell run once more, with a signal that was sent to it. -/
def signalJob (e : Engine) (job : Job) (n : Signal) : ShellM Job := fun s ↦
  let m := s.context.machine
  let now := s.context.process.clock + 1
  let killed : Job × Machine :=
    ({ job with ending := some (now, n.status) }, m.cutOff (m.isOfJob job.process) now)
  let (job, m) : Job × Machine := match job.start with
    | none => killed
    | some (start, c) =>
      let sent := job.sent ++ [⟨now, job.process, n⟩]
      let before := start.context.machine
      let start := { start with
        context.machine.nextProcess := m.nextProcess
        context.machine.signals := start.context.machine.signals ++ sent }
      let (again, child) := complete e (runBeside e c) { toShellCore := start }
      match again.ending with
      | none => killed
      | some _ =>
        ({ job with ending := again.ending, sent }, m.redo job.process before child.context.machine)
  (.ok job, { s with context.machine := m })

def forkInto (e : Engine) (inlet : Nat) (body : ShellM Unit) : ShellM Job :=
  fork e false do
    system (ProcessM.setDescriptor 1 (some inlet))
    body

end ShellM

end PpiDump.Shell
