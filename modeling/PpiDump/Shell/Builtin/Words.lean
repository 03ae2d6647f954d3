import PpiDump.Shell.Builtin.Basic
import PpiDump.Tool.Conditions
import PpiDump.Tool.Format

namespace PpiDump.Shell.Builtin

open ShellM

def echo : Builtin := {
  name := "echo"
  run := fun _ args ↦ do
    setStatus 0
    put (if ← isExtended then Format.echoWithOptions args else Format.echo args) }

def print : Builtin := {
  name := "printf"
  run := fun _ args ↦ do
    let d := (← get).dialect
    let (setting?, args) := match d, args with
      | .extended, ['-', 'v'] :: name :: args => (some name, args)
      | _, args => (none, args)
    let ended : Bool := args.head? = some ['-', '-']
    match if ended then args.drop 1 else args with
    | [] => failWith "usage: printf format [arg ...]".toList
    | format :: args =>
      if !ended && 1 < format.length && format.head? = some '-' then
        let letter := (format.drop 1).take 1
        failWith (if d = .plain then "Illegal option -".toList ++ letter
          else '-' :: letter ++ ": invalid option\n".toList ++
            "printf: usage: printf [-v var] format [arguments]".toList)
      else
        let p := Format.print d format args
        setStatus 0
        match setting? with
        | some name => setVariable name p.text
        | none => pure ()
        p.messages.reverse.forM complain
        if setting?.isNone then put p.text
        if !p.messages.isEmpty then setStatus 1
        if p.invalid then
          if d = .plain then
            setStatus 2
            throw .failed
          else setStatus 1 }

def decide (args : List Text) : ShellM Unit := do
  match Conditions.evaluate (← isExtended) (← get).context args with
  | .ok b => answer b
  | .error message => failWith message

def test : Builtin := { name := "test", run := fun _ args ↦ decide args }

def bracket : Builtin := {
  name := "["
  run := fun _ args ↦
    if args.getLast? = some [']'] then decide args.dropLast
    else failWith "missing ]".toList }

inductive Meaning where
  | keyword | alias (value : Text) | special | function | builtin | program (path : Text)

def keywords (extended : Bool) : List String :=
  Token.reserved ++ if extended then Token.reservedMore ++ ["]]"] else []

def meaning? (builtins : List (Text × Bool)) (name : Text) : ShellM (Option Meaning) := do
  let s ← get
  if (keywords (← isExtended)).any (·.toList = name) then return some .keyword
  else
    match s.aliases.find? (·.1 = name), builtins.find? (·.1 = name) with
    | some (_, value), _ => return some (.alias value)
    | none, some (_, true) => return some .special
    | none, b =>
      if s.functions.any (·.1 = name) then return some .function
      else if b.isSome then return some .builtin
      else
        match ← findProgram name with
        | some path =>
          match s.context.find path with
          | .ok (.file f) => return if f.executable then some (.program path) else none
          | _ => return none
        | none => return none

def describe (builtins : List (Text × Bool)) (name : Text) : ShellM Bool := do
  let extended ← isExtended
  let say (s : String) : ShellM Bool := do
    putLine (name ++ ' ' :: s.toList)
    return true
  match ← meaning? builtins name with
  | some .keyword => say "is a shell keyword"
  | some (.alias value) =>
    putLine (name ++ (if extended then " is aliased to '" else " is an alias for ").toList ++
      value ++ if extended then ['\''] else [])
    return true
  | some .special =>
    say (if extended then "is a shell builtin" else "is a special shell builtin")
  | some .function => say (if extended then "is a function" else "is a shell function")
  | some .builtin => say "is a shell builtin"
  | some (.program path) =>
    let known := (← get).known.contains name
    if !name.contains '/' then remember name
    putLine (name ++ (if !known then " is ".toList
      else if extended then " is hashed (".toList
      else " is a tracked alias for ".toList) ++ path ++ if known && extended then [')'] else [])
    return true
  | none =>
    if extended then complain (name ++ ": not found".toList)
    else putLine (name ++ ": not found".toList)
    return false

def whereabouts (builtins : List (Text × Bool)) (name : Text) : ShellM Bool := do
  match ← meaning? builtins name with
  | some (.program path) =>
    if !name.contains '/' then remember name
    putLine path
    return true
  | some (.alias value) =>
    putLine ("alias ".toList ++ name ++ '=' :: singleQuoted value)
    return true
  | some _ =>
    putLine name
    return true
  | none => return false

def typeOf (builtins : List (Text × Bool)) : Builtin := {
  name := "type"
  run := fun _ args ↦ do
    let extended ← isExtended
    let mut ok := true
    let (short, names) := match extended, args with
      | true, ['-', 't'] :: names => (true, names)
      | _, names => (false, names)
    for name in names do
      if short then
        match ← meaning? builtins name with
        | none => ok := false
        | some m =>
          putLine (match m with
            | .keyword => "keyword"
            | .alias _ => "alias"
            | .special | .builtin => "builtin"
            | .function => "function"
            | .program _ => "file").toList
      else if !(← describe builtins name) then ok := false
    setStatus (if ok then 0 else if extended then 1 else 127) }

def hash : Builtin := {
  name := "hash"
  run := fun _ args ↦ do
    let (letters, names) ← readLetters ['r', 'v'] [] args
    setStatus 0
    if letters.any (·.1 = 'r') then modify fun s ↦ { s with known := [] }
    else if names.isEmpty then
      let known := (← get).known.mergeSort fun a b ↦ listPlace 31 a ≤ listPlace 31 b
      for name in known do
        match ← findProgram name with
        | some path => putLine path
        | none => pure ()
    else
      for name in names do
        match ← findProgram name with
        | some _ => remember name
        | none =>
          complain (name ++ ": not found".toList)
          setStatus 1 }

end PpiDump.Shell.Builtin
