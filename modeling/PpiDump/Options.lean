import PpiDump.Error
import PpiDump.Json.Reader

namespace PpiDump

open Json (Value)

structure Options where
  quiet : Bool := false
  debugDump : Option Text := none
  timeoutSecs : Option Nat := some 60
  perl : Text := "perl".toList
  includeDirs : List Text := []
  deriving DecidableEq, Repr, Inhabited

namespace Options

inductive Key where
  | quiet | debugDump | timeoutSecs | perl | includeDirs
  deriving DecidableEq, Repr

namespace Key

def all : List Key := [quiet, debugDump, timeoutSecs, perl, includeDirs]

def name : Key → Text
  | quiet => "quiet".toList
  | debugDump => "debug_dump".toList
  | timeoutSecs => "timeout_secs".toList
  | perl => "perl".toList
  | includeDirs => "include_dirs".toList

def ofName? (name : Text) : Option Key := all.find? fun k ↦ k.name = name

end Key

def readBool : Value → Option Bool
  | .bool b => some b
  | _ => none

def readText : Value → Option Text
  | .string content => content
  | _ => none

def readTexts : Value → Option (List Text)
  | .array items => items.mapM readText
  | _ => none

def readNat64 : Value → Option Nat
  | .nat n => if n < Nat.pow 2 64 then some n else none
  | _ => none

def readOptional {α : Type} (read : Value → Option α) : Value → Option (Option α)
  | .null => some none
  | v => (read v).map some

def set (o : Options) (key : Key) (v : Value) : Option Options :=
  match key with
  | .quiet => (readBool v).map fun quiet ↦ { o with quiet }
  | .debugDump => (readOptional readText v).map fun debugDump ↦ { o with debugDump }
  | .timeoutSecs => (readOptional readNat64 v).map fun timeoutSecs ↦ { o with timeoutSecs }
  | .perl => (readText v).map fun perl ↦ { o with perl }
  | .includeDirs => (readTexts v).map fun includeDirs ↦ { o with includeDirs }

def setFields (seen : List Key) (o : Options) : List (Json.Content × Value) → Option Options
  | [] => some o
  | (none, _) :: _ => none
  | (some name, v) :: fields =>
    match Key.ofName? name with
    | none => setFields seen o fields
    | some key =>
      if seen.contains key then none
      else (o.set key v).bind fun o ↦ setFields (key :: seen) o fields

/-- Sets options from values in the order of `keys`. Fewer values than keys will do. -/
def setItems (o : Options) : List Key → List Value → Option Options
  | _, [] => some o
  | [], _ :: _ => none
  | key :: keys, v :: vs => (o.set key v).bind fun o ↦ setItems o keys vs

def ofValue? : Value → Option Options
  | .object fields => setFields [] {} fields
  | .array items => setItems {} Key.all items
  | _ => none

def ofJson? (text : Text) : Except Error Options :=
  match (Json.read? text).bind ofValue? with
  | some o => .ok o
  | none => .error .badOptions

end Options

end PpiDump
