import PpiDump.Error
import PpiDump.ExitStatus
import PpiDump.Text.Utf8

namespace PpiDump

inductive Message where
  | line (t : Text)
  | failed
  deriving DecidableEq, Repr

inductive ChildState where
  | running | waited | killed
  deriving DecidableEq, Repr

/-- A reader cuts the output of a running program into pieces and puts a line for each into a queue,
from which the consumer takes one a request. The two run side by side, so a delivery is a system of
steps that may come in any order. Waiting for the program always succeeds here, and a line that is
no UTF-8 is handed over without a word. -/
structure Delivery where
  /-- The pieces of the output that the reader has not handed over yet. -/
  unread : List Bytes
  reading : Bool := true
  queue : List Message := []
  limit : Option Nat
  expired : Bool := false
  child : ChildState := .running
  deriving DecidableEq, Repr

namespace Delivery

inductive Answer where
  | line (t : Text)
  | failed (e : Error)
  | ended
  deriving DecidableEq, Repr

/-- The reader hands over a line, meets an error, or reaches the end; the limit passes; the consumer
asks for a line, or loses interest. -/
inductive Action where
  | send
  | fail
  | close
  | expire
  | ask
  | drop
  deriving DecidableEq, Repr

def start (output : Bytes) (limit : Option Nat) : Delivery :=
  { unread := output.pieces, limit }

def kill (d : Delivery) : Delivery :=
  match d.child with
  | .running => { d with child := .killed }
  | _ => d

def hasExpired (d : Delivery) : Bool := d.expired && d.limit.isSome

def timeout (d : Delivery) : Error := .timedOut (d.limit.getD 0 / 1000)

/-- Answers a request, unless nothing has come yet and the limit has not passed: then the consumer
has to wait. -/
def ask (d : Delivery) : Delivery × Option Answer :=
  if d.child ≠ .running then (d, some .ended)
  else
    match d.queue with
    | .line t :: queue => ({ d with queue }, some (.line t))
    | .failed :: queue => ({ d with queue, child := .killed }, some (.failed .fileFailure))
    | [] =>
      if !d.reading then ({ d with child := .waited }, some .ended)
      else if d.hasExpired then ({ d with child := .killed }, some (.failed d.timeout))
      else (d, none)

def step (d : Delivery) : Action → Delivery × Option Answer
  | .send =>
    match d.unread with
    | piece :: unread =>
      if d.reading then
        ({ d with unread, queue := d.queue ++ [.line (Utf8.decodeLine piece)] }, none)
      else (d, none)
    | [] => (d, none)
  | .fail =>
    if d.reading then ({ d with reading := false, queue := d.queue ++ [.failed] }, none)
    else (d, none)
  | .close =>
    if d.reading && d.unread.isEmpty then ({ d with reading := false }, none) else (d, none)
  | .expire => ({ d with expired := true }, none)
  | .ask => d.ask
  | .drop => (d.kill, none)

def run (d : Delivery) : List Action → Delivery × List Answer
  | [] => (d, [])
  | a :: actions =>
    let (d, answer) := d.step a
    let (d, answers) := run d actions
    (d, answer.toList ++ answers)

end Delivery

end PpiDump
