namespace PpiDump

/-- From where values are seen and changed: by a process, which belongs to a job, at a time. -/
structure Standpoint where
  time : Nat := 0
  process : Nat := 0
  job : Nat := 0
  deriving DecidableEq, Repr

structure Change (κ α : Type) where
  origin : Standpoint
  rank : Nat
  key : κ
  value : α
  deriving DecidableEq, Repr

/-- What became of the values under some keys. Changes are listed with the latest first. -/
structure History (κ α : Type) where
  changes : List (Change κ α) := []
  foreseen : List (Change κ α) := []
  counts : List (Nat × Nat) := []

namespace History

variable {κ α : Type} [DecidableEq κ] (h : History κ α) (s : Standpoint)

def count (job : Nat) : Nat := ((h.counts.find? (·.1 = job)).map Prod.snd).getD 0

def isExpected (c : Change κ α) : Bool :=
  c.origin.time < s.time && c.origin.job ≠ s.job && h.count c.origin.job ≤ c.rank

def latest? (key : κ) : Option α :=
  let known := h.changes.find? fun c ↦ c.origin.time ≤ s.time && c.key = key
  let expected := h.foreseen.find? fun c ↦ c.key = key && h.isExpected s c
  match known, expected with
  | some c, some d => if c.origin.time ≤ d.origin.time then d.value else c.value
  | some c, none | none, some c => c.value
  | none, none => none

def keys : List κ :=
  (h.changes.filter (·.origin.time ≤ s.time) ++ h.foreseen.filter (h.isExpected s)).map (·.key)

/-- Puts a change among others, whose latest come first. Those of the same key that come later are
revised. What a process changes at one time counts as one change. -/
def insert (revise : α → α) (c : Change κ α) : List (Change κ α) → List (Change κ α)
  | [] => [c]
  | d :: ds =>
    if c.origin.time < d.origin.time then
      (if d.key = c.key then { d with value := revise d.value } else d) :: insert revise c ds
    else if c.origin = d.origin then
      if c.key = d.key then c :: ds else d :: insert revise c ds
    else c :: d :: ds

/-- Changes the value under a key. What others change later has to be revised, unless it was changed
with regard to this. -/
def set (key : κ) (value : α) (revise : α → α) : History κ α :=
  let rank := h.count s.job
  let isForeseen := h.foreseen.any fun c ↦
    c.origin.job = s.job && c.origin.time = s.time && c.key = key && rank ≤ c.rank
  { h with
    changes := insert (if isForeseen then id else revise) ⟨s, rank, key, value⟩ h.changes
    counts := (s.job, rank + 1) :: h.counts.filter (·.1 ≠ s.job) }

def withdraw (p : Standpoint → Bool) : History κ α :=
  { h with changes := h.changes.filter fun c ↦ !p c.origin }

def madeFrom (process : Nat) : List (Change κ α) :=
  h.changes.filter (process ≤ ·.origin.process)

def redo (job : Nat) (isKnown : κ → Bool) (other : History κ α) : History κ α :=
  let changes := other.changes.filter (fun c ↦ c.origin.job = job && isKnown c.key) ++
    h.changes.filter (·.origin.job ≠ job)
  { h with
    changes := changes.mergeSort fun c d ↦ d.origin.time ≤ c.origin.time
    counts := other.counts.filter (·.1 = job) ++ h.counts.filter (·.1 ≠ job) }

def settled : History κ α := { changes := h.changes }

end History

end PpiDump
