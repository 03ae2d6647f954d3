import PpiDump.Files
import PpiDump.Process.Signal

namespace PpiDump

abbrev Inflow := List (Nat × Text)

namespace Inflow

structure Taken where
  text : Text
  time : Nat
  rest : Inflow
  complete : Bool

def takeAll (time : Nat) : Inflow → Taken
  | [] => ⟨[], time, [], false⟩
  | (t, piece) :: rest =>
    let more := takeAll (max time t) rest
    { more with text := piece ++ more.text }

def takeThrough (ends : Char → Bool) (time : Nat) : Inflow → Taken
  | [] => ⟨[], time, [], false⟩
  | (t, piece) :: rest =>
    let start := piece.takeWhile (!ends ·)
    match piece.drop start.length with
    | [] =>
      let more := takeThrough ends (max time t) rest
      { more with text := piece ++ more.text }
    | c :: others => ⟨start ++ [c], max time t, (t, others) :: rest, true⟩

def takeCount (n : Nat) (time : Nat) : Inflow → Taken
  | [] => ⟨[], time, [], n = 0⟩
  | (t, piece) :: rest =>
    if n = 0 then ⟨[], time, (t, piece) :: rest, true⟩
    else if n < piece.length then ⟨piece.take n, max time t, (t, piece.drop n) :: rest, true⟩
    else
      let more := takeCount (n - piece.length) (max time t) rest
      { more with text := piece ++ more.text }

end Inflow

structure Writing where
  time : Nat
  author : Nat
  text : Text

/-- Until when a process can write to a pipe; for ever if no time is given. -/
structure Hold where
  holder : Nat
  until? : Option Nat

structure Pipe where
  written : List Writing := []
  unread : Inflow := []
  holds : List Hold := []

namespace Pipe

def sorted (ws : List Writing) : List Writing :=
  ws.reverse.mergeSort fun a b ↦ a.time ≤ b.time

def inflow (p : Pipe) : Inflow := p.unread ++ (sorted p.written).map fun w ↦ (w.time, w.text)

def closed? (p : Pipe) : Option Nat :=
  p.holds.foldl (fun latest h ↦ latest.bind fun t ↦ h.until?.map (max t)) (some 0)

end Pipe

inductive Channel where
  | pipe (n : Nat)
  | file (path : Path)
  | directory
  | device (d : Device)
  deriving DecidableEq, Repr

structure Open where
  channel : Channel
  appends : Bool := false
  readable : Bool := true
  writable : Bool := true

structure Birth where
  process : Nat
  job : Nat
  time : Nat

structure Sent where
  time : Nat
  receiver : Nat
  signal : Signal

/-- What the processes of a `World` share. They are run one after the other, each from its start to
its end, and everything they write to a pipe carries its time in milliseconds, so that whoever reads
the pipe later sees it in the order of time. -/
structure Machine where
  files : Files := {}
  pipes : Array Pipe := #[]
  opens : Array Open := #[]
  positions : History Nat Nat := {}
  births : List Birth := []
  signals : List Sent := []
  nextProcess : Nat := 4711
  work : Nat := 0
  horizon : Nat := 0

namespace Machine

def newPipe (m : Machine) : Nat × Machine := (m.pipes.size, { m with pipes := m.pipes.push {} })

def newOpen (m : Machine) (o : Open) : Nat × Machine :=
  (m.opens.size, { m with opens := m.opens.push o })

def changePipe (m : Machine) (n : Nat) (f : Pipe → Pipe) : Machine :=
  { m with pipes := m.pipes.modify n f }

def changeOpen (m : Machine) (n : Nat) (f : Open → Open) : Machine :=
  { m with opens := m.opens.modify n f }

def connect (m : Machine) : Nat × Nat × Nat × Machine :=
  let (pipe, m) := m.newPipe
  let (outlet, m) := m.newOpen { channel := .pipe pipe, writable := false }
  let (inlet, m) := m.newOpen { channel := .pipe pipe, readable := false }
  (pipe, outlet, inlet, m)

def isOfJob (m : Machine) (job process : Nat) : Bool :=
  process = job || m.births.any fun b ↦ b.process = process && b.job = job

def isBeside (births : List Birth) (time process : Nat) : Bool :=
  births.any fun b ↦
    b.process = process && births.any fun first ↦ first.process = b.job && first.time ≤ time

/-- Takes back what processes did after a time. -/
def cutOff (m : Machine) (undone : Nat → Bool) (time : Nat) : Machine :=
  let isUndone (s : Standpoint) : Bool := undone s.process && time < s.time
  { m with
    files := { m.files with history := m.files.history.withdraw isUndone }
    positions := m.positions.withdraw isUndone
    pipes := m.pipes.map fun p ↦ { p with
      written := p.written.filter fun w ↦ !(undone w.author && time < w.time)
      holds := p.holds.map fun h ↦
        if undone h.holder then { h with until? := some (h.until?.elim time (min time)) } else h } }

/-- Puts what a job did in another run in the place of what it did in this one. Of what is open, others
know what was there when it began. -/
def redo (m : Machine) (job : Nat) (start other : Machine) : Machine :=
  let merge (i : Nat) (p : Pipe) : Pipe :=
    match if i < start.pipes.size then other.pipes[i]? else none with
    | none => p
    | some q =>
      { p with
        written := q.written.filter (fun w ↦ other.isOfJob job w.author) ++
          p.written.filter fun w ↦ !m.isOfJob job w.author
        holds := q.holds.filter (fun h ↦ other.isOfJob job h.holder) ++
          p.holds.filter fun h ↦ !m.isOfJob job h.holder }
  { m with
    files := { m.files with history := m.files.history.redo job (fun _ ↦ true) other.files.history }
    positions := m.positions.redo job (· < start.opens.size) other.positions
    pipes := m.pipes.mapIdx merge
    births := other.births.filter (·.job = job) ++ m.births.filter (·.job ≠ job)
    nextProcess := other.nextProcess }

end Machine

end PpiDump
