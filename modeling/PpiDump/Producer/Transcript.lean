import PpiDump.Producer.Delivery

namespace PpiDump

/-- What a program does: the bytes it writes, each with the time in milliseconds since its start,
when its output is closed, and when and how it ends, if it does. The output may be closed before
the end, or after it, when others have it too. -/
structure ProgramRun where
  writes : List (Nat × Bytes) := []
  closed : Option Nat
  ending : Option (Nat × ExitStatus)
  deriving DecidableEq, Repr

/-- What a reader of a producer gets to see: lines, of which the last may be an error instead, and
how the producer failed, which shows only to one that reads to the end. -/
structure Transcript where
  items : List (Except Error Text)
  failure : Option ExitStatus := none
  times : List Nat := []
  finished : Nat := 0

namespace Transcript

def ofLines (lines : List Text) : Transcript := { items := lines.map .ok }

def timeAfter (t : Transcript) (read : Nat) : Nat :=
  match read with
  | 0 => 0
  | n + 1 => t.times.getD n t.finished

def itemOf? : Delivery.Answer → Option (Except Error Text)
  | .line t => some (.ok t)
  | .failed e => some (.error e)
  | .ended => none

end Transcript

namespace ProgramRun

def output (r : ProgramRun) : Bytes := r.writes.flatMap Prod.snd

/-- When each piece of the output is complete: with its line feed. Without one it waits until the
output is closed. -/
def arrivals (r : ProgramRun) : List Nat :=
  r.writes.flatMap fun (time, bytes) ↦ (bytes.filter (· = Bytes.lineFeed)).map fun _ ↦ time

def inTime (limit : Option Nat) (time : Nat) : Bool := limit.all (time < ·)

/-- The steps of a delivery to a consumer that asks as soon as it can: a line for each piece that
arrives in time, then the end if that comes in time too, else the limit. -/
def schedule (r : ProgramRun) (limit : Option Nat) : List Delivery.Action :=
  let early := r.arrivals.takeWhile (inTime limit)
  early.flatMap (fun _ ↦ [.send, .ask]) ++
    match r.closed with
    | some time =>
      if inTime limit time then
        (if early.length < r.output.pieces.length then [.send, .ask] else []) ++ [.close, .ask]
      else [.expire, .ask]
    | none => [.expire, .ask]

def answers (r : ProgramRun) (limit : Option Nat) : Delivery × List Delivery.Answer :=
  (Delivery.start r.output limit).run (r.schedule limit)

def answerTimes (r : ProgramRun) (limit : Option Nat) : List Nat :=
  let early := r.arrivals.takeWhile (inTime limit)
  let late := limit.getD 0
  early ++
    match r.closed with
    | some time =>
      if inTime limit time then
        (if early.length < r.output.pieces.length then [time] else []) ++
          [max time ((r.ending.map Prod.fst).getD 0)]
      else [late]
    | none => [late]

/-- What is seen of a run under a limit. A run that is waited for without end is an error. -/
def transcript (r : ProgramRun) (limit : Option Nat) : Transcript :=
  let (d, answers) := r.answers limit
  let items := answers.filterMap Transcript.itemOf?
  let times := r.answerTimes limit
  let seen : Transcript := { items, times, finished := times.getLastD 0 }
  match d.child, r.ending with
  | .running, _ | .waited, none => { seen with items := items ++ [.error .endless] }
  | .waited, some (_, status) =>
    { seen with failure := if status.isSuccess then none else some status }
  | _, _ => seen

end ProgramRun

end PpiDump
