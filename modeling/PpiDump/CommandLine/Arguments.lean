import PpiDump.Text.Basic

namespace PpiDump

structure Invocation where
  source : Text
  output : Option Text := none
  quiet : Bool := false
  dumpStruct : Option Text := none
  jsonTree : Option Text := none
  timeout : Option Nat := none
  perl : Option Text := none
  includeDirs : List Text := []
  config : Option Text := none
  fromDump : Bool := false
  deriving DecidableEq, Repr

namespace Arguments

inductive Setting where
  | output | dumpStruct | jsonTree | timeout | perl | includeDir | config
  deriving DecidableEq, Repr

inductive Flag where
  | quiet | fromDump | version | help
  deriving DecidableEq, Repr

inductive Switch where
  | setting (s : Setting)
  | flag (f : Flag)
  deriving DecidableEq, Repr

def long? (name : Text) : Option Switch :=
  (([("output", .setting .output), ("quiet", .flag .quiet), ("dump-struct", .setting .dumpStruct),
      ("json-tree", .setting .jsonTree), ("timeout", .setting .timeout), ("perl", .setting .perl),
      ("include", .setting .includeDir), ("config", .setting .config),
      ("from-dump", .flag .fromDump), ("help", .flag .help), ("version", .flag .version)] :
    List (String × Switch)).find? fun e ↦ e.1.toList = name).map Prod.snd

def short? (c : Char) : Option Switch :=
  (([('o', .setting .output), ('q', .flag .quiet), ('I', .setting .includeDir),
      ('c', .setting .config), ('h', .flag .help), ('V', .flag .version)] :
    List (Char × Switch)).find? fun e ↦ e.1 = c).map Prod.snd

inductive Stop where
  | invalid | version | help
  deriving DecidableEq, Repr

structure State where
  source : Option Text := none
  found : Invocation := { source := [] }
  pending : Option Setting := none
  onlySources : Bool := false
  deriving Repr

def readSeconds (t : Text) : Option Nat :=
  let ds := match t with
    | '+' :: ds => ds
    | ds => ds
  if !ds.isEmpty && ds.all Char.isDigit && Text.ofDigits ds < Nat.pow 2 64 then some (Text.ofDigits ds)
  else none

def fillOnce {α : Type} (old : Option α) (new : Option α) : Except Stop (Option α) :=
  match old, new with
  | none, some a => .ok (some a)
  | _, _ => .error .invalid

def path? (value : Text) : Option Text := if value.isEmpty then none else some value

def assign (i : Invocation) (s : Setting) (value : Text) : Except Stop Invocation :=
  match s with
  | .output => (fillOnce i.output (path? value)).map fun output ↦ { i with output }
  | .dumpStruct => (fillOnce i.dumpStruct (path? value)).map fun dumpStruct ↦ { i with dumpStruct }
  | .jsonTree => (fillOnce i.jsonTree (path? value)).map fun jsonTree ↦ { i with jsonTree }
  | .timeout => (fillOnce i.timeout (readSeconds value)).map fun timeout ↦ { i with timeout }
  | .perl => (fillOnce i.perl (path? value)).map fun perl ↦ { i with perl }
  | .config => (fillOnce i.config (path? value)).map fun config ↦ { i with config }
  | .includeDir =>
    match path? value with
    | some dir => .ok { i with includeDirs := i.includeDirs ++ [dir] }
    | none => .error .invalid

def raise (i : Invocation) : Flag → Except Stop Invocation
  | .quiet => if i.quiet then .error .invalid else .ok { i with quiet := true }
  | .fromDump => if i.fromDump then .error .invalid else .ok { i with fromDump := true }
  | .version => .error .version
  | .help => .error .help

def State.assign (st : State) (s : Setting) (value : Text) : Except Stop State :=
  (Arguments.assign st.found s value).map fun found ↦ { st with found, pending := none }

def State.raise (st : State) (f : Flag) : Except Stop State :=
  (Arguments.raise st.found f).map fun found ↦ { st with found }

def readLong (st : State) (body : Text) : Except Stop State :=
  let name := body.takeWhile (· ≠ '=')
  match long? name, body.dropWhile (· ≠ '=') with
  | some (.setting s), _ :: value => st.assign s value
  | some (.setting s), [] => .ok { st with pending := some s }
  | some (.flag f), [] => st.raise f
  | _, _ => .error .invalid

/-- Letters after one hyphen: flags, up to a setting, which takes all that follows as its value. -/
def readShorts (st : State) : Text → Except Stop State
  | [] => .ok st
  | c :: rest =>
    match short? c with
    | some (.flag f) =>
      match st.raise f with
      | .ok st => readShorts st rest
      | .error e => .error e
    | some (.setting s) =>
      match rest with
      | [] => .ok { st with pending := some s }
      | '=' :: value => st.assign s value
      | value => st.assign s value
    | none => .error .invalid

def readSource (st : State) (value : Text) : Except Stop State :=
  match fillOnce st.source (path? value) with
  | .ok source => .ok { st with source }
  | .error e => .error e

def step (st : State) (arg : Text) : Except Stop State :=
  if st.onlySources then readSource st arg
  else
    match arg, st.pending with
    | '-' :: _ :: _, some _ => .error .invalid
    | ['-', '-'], none => .ok { st with onlySources := true }
    | '-' :: '-' :: body, none => readLong st body
    | '-' :: c :: rest, none => readShorts st (c :: rest)
    | value, some s => st.assign s value
    | value, none => readSource st value

def finish (st : State) : Except Stop Invocation :=
  match st.pending, st.source with
  | none, some source => .ok { st.found with source }
  | _, _ => .error .invalid

def read (args : List Text) : Except Stop Invocation :=
  match args.foldlM step {} with
  | .ok st => finish st
  | .error e => .error e

end Arguments

end PpiDump
