import PpiDump.Converter
import PpiDump.Proofs.Forest

namespace PpiDump

/-- What a record holds for its node; nothing if it is of no use. -/
def Record.payload (r : Record) : Payload :=
  match Kind.ofName? r.kind with
  | none => .empty
  | some kind =>
    match Payload.decode kind.rule r.content 0 with
    | .ok payload => payload
    | .error _ => .empty

structure Closer where
  level : Nat
  char : Char
  deriving DecidableEq, Repr

/-- What has been written, and what is still to be written, innermost first. -/
structure Emitter where
  output : Text := openTag
  pending : List Closer := []
  deriving DecidableEq, Repr

namespace Emitter

def close (e : Emitter) (level : Nat) : Emitter where
  output := e.output ++ (e.pending.takeWhile (level ≤ ·.level)).map Closer.char
  pending := e.pending.dropWhile (level ≤ ·.level)

def write (e : Emitter) (level : Nat) : Payload → Emitter
  | .empty => e
  | .text t => { e with output := e.output ++ t }
  | .delimiters opening closing =>
    { output := e.output ++ [opening], pending := ⟨level, closing⟩ :: e.pending }

def accept (e : Emitter) (r : Record) : Emitter := (e.close r.level).write r.level r.payload

def finish (e : Emitter) : Text := e.output ++ e.pending.map Closer.char

/-- The text of a whole dump. -/
def emit (rs : List Record) : Text := (rs.foldl accept {}).finish

end Emitter

def Payload.ahead : Payload → Text
  | empty => []
  | text t => t
  | delimiters opening _ => [opening]

def Payload.behind : Payload → Text
  | delimiters _ closing => [closing]
  | _ => []

namespace Forest

variable {ahead behind : Handle → Text} {f : Forest} {pending : List Closer} {i l : Nat}

def wrap (ahead behind : Handle → Text) (f : Forest) : Text :=
  Branch.wrapAll ahead behind f.branches

theorem wrap_append (ahead behind : Handle → Text) (f f' : Forest) :
    wrap ahead behind (f ++ f') = wrap ahead behind f ++ wrap ahead behind f' := by
  induction f with
  | nil => rfl
  | cons x f ih =>
    simp only [wrap, branches, List.cons_append, List.map_cons, Branch.wrapAll] at ih ⊢
    rw [ih, List.append_assoc]

/-- The text of a forest with pending closers in it, each behind the last branch below its level. -/
def interleave (ahead behind : Handle → Text) : List Closer → Forest → Text
  | [], f => wrap ahead behind f
  | c :: pending, f =>
    wrap ahead behind (f.below c.level) ++
      c.char :: interleave ahead behind pending (f.beside c.level)

theorem interleave_nil (ahead behind : Handle → Text) (pending : List Closer) :
    interleave ahead behind pending [] = pending.map Closer.char := by
  induction pending with
  | nil => rfl
  | cons c pending ih =>
    rw [interleave, below, beside, List.takeWhile_nil, List.dropWhile_nil, ih]
    rfl

theorem interleave_plant (ahead behind : Handle → Text) (pending : List Closer) :
    interleave ahead behind pending (plant i l f) =
      (pending.takeWhile (l ≤ ·.level)).map Closer.char ++
        interleave ahead behind (pending.dropWhile (l ≤ ·.level)) (plant i l f) := by
  induction pending with
  | nil => rfl
  | cons c pending ih =>
    by_cases hc : l ≤ c.level
    · rw [List.takeWhile_cons_of_pos (by simpa using hc),
        List.dropWhile_cons_of_pos (by simpa using hc), interleave, below_plant_eq_nil hc,
        beside_plant_eq_self hc, ih]
      rfl
    · rw [List.takeWhile_cons_of_neg (by simpa using hc),
        List.dropWhile_cons_of_neg (by simpa using hc)]
      rfl

theorem interleave_split (ahead behind : Handle → Text)
    (hp : ∀ c ∈ pending.head?, c.level < l) (f : Forest) :
    interleave ahead behind pending f =
      wrap ahead behind (f.below l) ++ interleave ahead behind pending (f.beside l) := by
  cases pending with
  | nil => rw [interleave, interleave, ← wrap_append, below_append_beside]
  | cons c pending =>
    have hc : c.level < l := hp c rfl
    rw [interleave, interleave, below_split hc, beside_split hc, wrap_append, List.append_assoc]

theorem interleave_node (hp : ∀ c ∈ pending.head?, c.level < l) (f : Forest) :
    interleave ahead behind pending (plant i l f) =
      ahead i ++ (wrap ahead behind (f.below l) ++
        (behind i ++ interleave ahead behind pending (f.beside l))) := by
  cases pending with
  | nil =>
    simp [interleave, plant, wrap, branches, Branch.wrapAll, Branch.wrap]
  | cons c pending =>
    have hc : c.level < l := hp c rfl
    rw [interleave, below_plant hc, beside_plant hc, interleave]
    simp [wrap, branches, Branch.wrapAll, Branch.wrap]

end Forest

namespace Emitter

open Forest

theorem close_pending (e : Emitter) (l : Nat) : ∀ c ∈ (e.close l).pending.head?, c.level < l := by
  intro c hc
  have := List.head?_dropWhile_not (l ≤ ·.level) e.pending
  simp only [close] at hc
  rw [hc] at this
  simpa using this

theorem foldl_accept (ahead behind : Handle → Text) (rs : List Record) (e : Emitter) (i : Nat)
    (hahead : ∀ k r, rs[k]? = some r → ahead (i + k) = r.payload.ahead)
    (hbehind : ∀ k r, rs[k]? = some r → behind (i + k) = r.payload.behind) :
    (rs.foldl accept e).finish =
      e.output ++ interleave ahead behind e.pending (ofLevels i (rs.map Record.level)) := by
  -- The forest grows from the end of the records and the machine runs from their start, so the
  -- state, in which all that came before is left, has to vary.
  induction rs generalizing e i with
  | nil => rw [List.map_nil, ofLevels, interleave_nil, List.foldl_nil, finish]
  | cons r rs ih =>
    have hih := ih (e.accept r) (i + 1)
      (fun k s hs ↦ by rw [Nat.add_right_comm]; exact hahead (k + 1) s hs)
      (fun k s hs ↦ by rw [Nat.add_right_comm]; exact hbehind (k + 1) s hs)
    have hi : ahead i = r.payload.ahead := hahead 0 r rfl
    have hi' : behind i = r.payload.behind := hbehind 0 r rfl
    have hp := e.close_pending r.level
    generalize hf : ofLevels (i + 1) (rs.map Record.level) = f at hih
    have hsplit := interleave_split ahead behind hp f
    have hright : e.output ++ interleave ahead behind e.pending (plant i r.level f) =
        (e.close r.level).output ++ (r.payload.ahead ++ (wrap ahead behind (f.below r.level) ++
          (r.payload.behind ++
            interleave ahead behind (e.close r.level).pending (f.beside r.level)))) := by
      rw [interleave_plant, ← List.append_assoc, ← hi, ← hi', ← interleave_node hp]
      rfl
    rw [List.map_cons, ofLevels, hf, hright, List.foldl_cons, hih, accept]
    cases r.payload with
    | empty => simp [write, Payload.ahead, Payload.behind, hsplit]
    | text t => simp [write, Payload.ahead, Payload.behind, hsplit]
    | delimiters opening closing => simp [write, Payload.ahead, Payload.behind, interleave]

end Emitter

end PpiDump
