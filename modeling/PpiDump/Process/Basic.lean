import PpiDump.Process.Machine

namespace PpiDump

structure Process where
  number : Nat
  job : Nat
  clock : Nat := 0
  descriptors : List (Nat × Nat) := []
  directory : Path := Files.home
  stuck : Bool := false

structure Context where
  machine : Machine
  process : Process

abbrev ProcessM := StateM Context

namespace Context

def opened? (c : Context) (descriptor : Nat) : Option (Nat × Open) := do
  let (_, n) ← c.process.descriptors.find? fun d ↦ d.1 = descriptor
  let o ← c.machine.opens[n]?
  return (n, o)

def standpoint (c : Context) : Standpoint := ⟨c.process.clock, c.process.number, c.process.job⟩

def files (c : Context) : Files := { c.machine.files with standpoint := c.standpoint }

def position (c : Context) (n : Nat) : Nat := (c.machine.positions.latest? c.standpoint n).getD 0

def find (c : Context) (path : Text) : Except FileFailure Entry :=
  c.files.find c.process.directory (Utf8.decode (Bytes.ofChars path))

def locate (c : Context) (path : Text) : Except FileFailure Path :=
  c.files.locate c.process.directory (Utf8.decode (Bytes.ofChars path))

end Context

namespace ProcessM

def getMachine : ProcessM Machine := return (← get).machine

def setMachine (m : Machine) : ProcessM Unit := modify fun c ↦ { c with machine := m }

def changeMachine (f : Machine → Machine) : ProcessM Unit :=
  modify fun c ↦ { c with machine := f c.machine }

def changeProcess (f : Process → Process) : ProcessM Unit :=
  modify fun c ↦ { c with process := f c.process }

def changeFiles (f : Files → Files) : ProcessM Unit :=
  modify fun c ↦ { c with machine := { c.machine with files := f c.files } }

def setPosition (n position : Nat) : ProcessM Unit := modify fun c ↦
  { c with machine := { c.machine with
      positions := c.machine.positions.set c.standpoint n position id } }

def clock : ProcessM Nat := return (← get).process.clock

def waitUntil (time : Nat) : ProcessM Unit :=
  changeProcess fun p ↦ { p with clock := max p.clock time }

def setDescriptor (descriptor : Nat) (n : Option Nat) : ProcessM Unit :=
  changeProcess fun p ↦
    let others := p.descriptors.filter fun d ↦ d.1 ≠ descriptor
    { p with descriptors := n.toList.map (descriptor, ·) ++ others }

inductive Mode where
  | read | write | append | both | create
  deriving DecidableEq, Repr

def openFile (mode : Mode) (t : Text) : ProcessM (Except FileFailure Nat) := do
  let c ← get
  let new (o : Open) : ProcessM (Except FileFailure Nat) := do
    let (n, m) := (← getMachine).newOpen o
    setMachine m
    setPosition n 0
    return .ok n
  let newFile (path : Path) : ProcessM (Except FileFailure Nat) :=
    if c.files.isWritable path then do
      changeFiles (·.write path [])
      new { channel := .file path, appends := mode = .append, readable := mode = .both }
    else return .error .notPermitted
  match c.locate t with
  | .error e => return .error e
  | .ok path =>
    match c.files.entry? path with
    | some .directory =>
      if mode = .read then new { channel := .directory } else return .error .isDirectory
    | some (.device d) => new { channel := .device d }
    | some (.descriptor n) =>
      match c.opened? n with
      | some (n, _) => return .ok n
      | none => return .error .missing
    | some (.file _) =>
      match mode with
      | .read => new { channel := .file path, writable := false }
      | .append => new { channel := .file path, appends := true, readable := false }
      | .both => new { channel := .file path }
      | .write => newFile path
      | .create => return .error .present
    | none => if mode = .read then return .error .missing else newFile path

def overwrite (position : Nat) (content : Bytes) (t : Text) : Bytes :=
  let new := Bytes.ofChars t
  let gap := List.replicate (position - content.length) 0
  content.take position ++ gap ++ new ++ content.drop (position + new.length)

def spend (work : Nat) : ProcessM Unit :=
  changeMachine fun m ↦ { m with work := m.work - work }

/-- The work of writing something, counted in commands, by how much there is already. -/
def writingWork (present : Nat) : Nat := 20 + present / 64

def put (descriptor : Nat) (t : Text) : ProcessM (Except FileFailure Unit) := do
  let c ← get
  match c.opened? descriptor with
  | none => return .error .badDescriptor
  | some (n, o) =>
    if !o.writable then return .error .badDescriptor
    else
      match o.channel with
      | .device .full => if t.isEmpty then return .ok () else return .error .noSpace
      | .device _ => return .ok ()
      | .directory => return .error .badDescriptor
      | .pipe p =>
        if !t.isEmpty then
          let w : Writing := ⟨c.process.clock, c.process.number, t⟩
          changeMachine fun m ↦ m.changePipe p fun p ↦ { p with written := w :: p.written }
          spend (writingWork 0)
        return .ok ()
      | .file path =>
        let content := (c.files.content? path).getD []
        spend (writingWork content.length)
        if o.appends then changeFiles (·.write path (content ++ Bytes.ofChars t))
        else
          let position := c.position n
          changeFiles (·.write path (overwrite position content t))
          setPosition n (position + t.length)
        return .ok ()

def available (c : Context) (n : Nat) (o : Open) : Except FileFailure (Inflow × Option Nat) :=
  if !o.readable then .error .badDescriptor
  else
    match o.channel with
    | .pipe p =>
      match c.machine.pipes[p]? with
      | some pipe => .ok (pipe.inflow, pipe.closed?)
      | none => .error .badDescriptor
    | .file path =>
      match c.files.content? path with
      | some content => .ok ([(0, Bytes.toChars (content.drop (c.position n)))], some 0)
      | none => .ok ([], some 0)
    | .directory => .error .isDirectory
    | .device .null => .ok ([], some 0)
    | .device _ => .ok ([(0, List.replicate 65536 '\x00')], none)

/-- Reads with one of the ways to take from what has come. A reader that gets less than it asked
for has waited for the end. -/
def take (descriptor : Nat) (f : Nat → Inflow → Inflow.Taken) :
    ProcessM (Except FileFailure (Text × Bool)) := do
  let c ← get
  match c.opened? descriptor with
  | none => return .error .badDescriptor
  | some (n, o) =>
    match available c n o with
    | .error e => return .error e
    | .ok (inflow, ending) =>
      let taken := f c.process.clock inflow
      match o.channel with
      | .pipe p =>
        changeMachine (·.changePipe p fun p ↦ { p with written := [], unread := taken.rest })
      | .file _ => setPosition n (c.position n + taken.text.length)
      | _ => pure ()
      waitUntil taken.time
      if !taken.complete then
        match ending with
        | some time => waitUntil time
        | none => changeProcess fun p ↦ { p with stuck := true }
      return .ok (taken.text, taken.complete)

def readAll (descriptor : Nat) : ProcessM (Except FileFailure Text) := do
  return (← take descriptor Inflow.takeAll).map Prod.fst

def drain (descriptor : Nat) (f : Text → ProcessM Unit) : ProcessM (Except FileFailure Unit) := do
  let c ← get
  match c.opened? descriptor with
  | none => return .error .badDescriptor
  | some (n, o) =>
    match available c n o with
    | .error e => return .error e
    | .ok (inflow, ending) =>
      match o.channel with
      | .pipe p => changeMachine (·.changePipe p fun p ↦ { p with written := [], unread := [] })
      | .file _ =>
        setPosition n (c.position n + (inflow.map fun p ↦ p.2.length).foldr (· + ·) 0)
      | _ => pure ()
      inflow.forM fun (time, t) ↦ do
        waitUntil time
        f t
      match ending with
      | some time => waitUntil time
      | none => changeProcess fun p ↦ { p with stuck := true }
      return .ok ()

def takeAhead (descriptor : Nat) : ProcessM (Except FileFailure (Text × Option Nat)) := do
  let c ← get
  match c.opened? descriptor with
  | none => return .error .badDescriptor
  | some (n, o) =>
    match available c n o with
    | .error e => return .error e
    | .ok (inflow, ending) =>
      let taken := Inflow.takeAll c.process.clock inflow
      match o.channel with
      | .pipe p => changeMachine (·.changePipe p fun p ↦ { p with written := [], unread := [] })
      | .file _ => setPosition n (c.position n + taken.text.length)
      | _ => pure ()
      return .ok (taken.text, ending)

def waitForEnd : Option Nat → ProcessM Unit
  | some time => waitUntil time
  | none => changeProcess fun p ↦ { p with stuck := true }

def discard (descriptor : Nat) : ProcessM Unit := do
  let c ← get
  match c.opened? descriptor with
  | some (_, { channel := .pipe n, .. }) =>
    changeMachine (·.changePipe n fun p ↦
      { p with written := [], unread := p.inflow.filter fun piece ↦ c.process.clock < piece.1 })
  | _ => pure ()

def readLine (descriptor : Nat) : ProcessM (Except FileFailure (Text × Bool)) :=
  take descriptor (Inflow.takeThrough (· = '\n'))

def readCount (descriptor n : Nat) : ProcessM (Except FileFailure Text) := do
  return (← take descriptor (Inflow.takeCount n)).map Prod.fst

def giveBack (descriptor count : Nat) : ProcessM Unit := do
  let c ← get
  match c.opened? descriptor with
  | some (n, { channel := .file _, .. }) => setPosition n (c.position n - count)
  | _ => pure ()

def hold (descriptors : List (Nat × Nat)) (until? : Option Nat) : ProcessM Unit := do
  let p := (← get).process
  for d in descriptors do
    match (← getMachine).opens[d.2]? with
    | some { channel := .pipe n, writable := true, .. } =>
      changeMachine (·.changePipe n fun pipe ↦
        { pipe with holds := ⟨p.number, until?⟩ :: pipe.holds })
    | _ => pure ()

def leave (others : List (Nat × Nat)) : ProcessM Unit := do
  let p := (← get).process
  hold (p.descriptors ++ others) (if p.stuck then none else some p.clock)

end ProcessM

end PpiDump
