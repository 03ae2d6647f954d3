import PpiDump.Process.Basic
import PpiDump.Shell.Arithmetic

namespace PpiDump

/-- A program that every system has, as a surrogate for it: it gets its arguments and ends with a
number. The characters of all texts are bytes. -/
abbrev Tool := List Text → ProcessM Nat

namespace Tool

def put (t : Text) : ProcessM Unit := do
  let _ ← ProcessM.put 1 t

def complain (name : String) (message : Text) : ProcessM Unit := do
  let _ ← ProcessM.put 2 (name.toList ++ ": ".toList ++ message ++ ['\n'])

def quoted (t : Text) : Text := '\'' :: t ++ ['\'']

def escaped (c : Char) : Text :=
  match c with
  | '\n' => "\\n".toList
  | '\t' => "\\t".toList
  | '\r' => "\\r".toList
  | c => '\\' :: [c.toNat / 64, c.toNat / 8 % 8, c.toNat % 8].map Nat.digitChar

/-- What is left to write of a text between quotes. Bytes that cannot be shown stand between quotes
of their own; `hidden` tells whether those are open. -/
def quoteRest (hidden : Bool) : Text → Text
  | [] => ['\'']
  | c :: t =>
    if ' ' ≤ c && c ≤ '~' then
      (if hidden then "''".toList else []) ++ (if c = '\'' then "'\\''".toList else [c]) ++
        quoteRest false t
    else (if hidden then [] else "'$'".toList) ++ escaped c ++ quoteRest true t

def shellQuoted (t : Text) : Text :=
  if t.contains '\'' && t.all fun c ↦ ' ' ≤ c && c ≤ '~' && !"\"$`\\!".toList.contains c then
    '"' :: t ++ ['"']
  else '\'' :: quoteRest false t

def shown (t : Text) : Text :=
  let special (c : Char) : Bool :=
    c < '!' || '~' < c || "!\"$&'()*;<=>?[\\^`|:".toList.contains c
  if t.isEmpty || t.any special || t.head? = some '~' || t.head? = some '#' then shellQuoted t
  else t

def misuse (name : String) (message : Text) (status : Nat) : ProcessM Nat := do
  complain name message
  let _ ← ProcessM.put 2 ("Try '".toList ++ name.toList ++ " --help' for more information.\n".toList)
  return status

structure Given where
  options : List (Char × Text) := []
  operands : List Text := []

namespace Given

def has (g : Given) (c : Char) : Bool := g.options.any (·.1 = c)

def value? (g : Given) (c : Char) : Option Text :=
  (g.options.reverse.find? (·.1 = c)).map Prod.snd

def values (g : Given) (c : Char) : List Text :=
  (g.options.filter (·.1 = c)).map Prod.snd

end Given

/-- The options a tool knows: letters, letters with a value, and long names for letters. -/
structure Known where
  letters : String := ""
  valued : String := ""
  long : List (String × Char) := []
  strict : Bool := false

def readLetters (k : Known) : Text → Except Text (List (Char × Text) × Option Char)
  | [] => .ok ([], none)
  | c :: cs =>
    if k.valued.toList.contains c then
      if cs.isEmpty then .ok ([], some c) else .ok ([(c, cs)], none)
    else if k.letters.toList.contains c then
      (readLetters k cs).map fun (ls, wanting) ↦ ((c, []) :: ls, wanting)
    else .error ("invalid option -- ".toList ++ quoted [c])

def readLong (k : Known) (body : Text) : Except Text (Char × Option Text) :=
  let name := body.takeWhile (· ≠ '=')
  let value := (body.drop name.length).drop 1
  let hasValue : Bool := name.length < body.length
  let exact := k.long.filter fun l ↦ l.1.toList = name
  let found := if exact.isEmpty then k.long.filter fun l ↦ name.isPrefixOf l.1.toList else exact
  match found with
  | [(_, c)] => .ok (c, if hasValue then some value else none)
  | [] => .error ("unrecognized option ".toList ++ quoted ('-' :: '-' :: name))
  | _ => .error ("option ".toList ++ quoted ('-' :: '-' :: name) ++ " is ambiguous".toList)

def readArguments (k : Known) : List Text → Except Text Given
  | [] => .ok {}
  | arg :: args =>
    match arg with
    | ['-', '-'] => .ok { operands := args }
    | '-' :: '-' :: body =>
      match readLong k body with
      | .error e => .error e
      | .ok (c, value) =>
        match value, k.valued.toList.contains c, args with
        | some t, true, args => add [(c, t)] (readArguments k args)
        | none, true, t :: args => add [(c, t)] (readArguments k args)
        | none, true, [] =>
          .error ("option ".toList ++ quoted ('-' :: '-' :: body) ++
            " requires an argument".toList)
        | _, false, args => add [(c, [])] (readArguments k args)
    | '-' :: c :: cs =>
      match readLetters k (c :: cs) with
      | .error e => .error e
      | .ok (ls, none) => add ls (readArguments k args)
      | .ok (ls, some c) =>
        match args with
        | value :: args => add (ls ++ [(c, value)]) (readArguments k args)
        | [] => .error ("option requires an argument -- ".toList ++ quoted [c])
    | operand =>
      if k.strict then .ok { operands := operand :: args }
      else (readArguments k args).map fun g ↦ { g with operands := operand :: g.operands }
where
  add (ls : List (Char × Text)) (r : Except Text Given) : Except Text Given :=
    r.map fun g ↦ { g with options := ls ++ g.options }

def withOptions (name : String) (k : Known) (status : Nat) (run : Given → ProcessM Nat) : Tool :=
  fun args ↦
    match readArguments k args with
    | .ok g => run g
    | .error message => misuse name message status

/-- Opens a file by its path for a while, or takes the input for a hyphen. -/
def withFile {α : Type} (path : Text) (use : Nat → ProcessM (Except FileFailure α)) :
    ProcessM (Except FileFailure α) := do
  if path = ['-'] then use 0
  else
    match ← ProcessM.openFile .read path with
    | .error e => return .error e
    | .ok n =>
      let descriptors := (← get).process.descriptors
      ProcessM.setDescriptor 254 (some n)
      let a ← use 254
      ProcessM.changeProcess fun p ↦ { p with descriptors }
      return a

def readFile (path : Text) : ProcessM (Except FileFailure Text) := withFile path ProcessM.readAll

abbrev Complaint := Text → FileFailure → Text

def plainly : Complaint := fun path e ↦ shown path ++ ": ".toList ++ e.message

def cannotOpen : Complaint := fun path e ↦
  if e = .isDirectory then "error reading ".toList ++ shellQuoted path ++ ": ".toList ++ e.message
  else "cannot open ".toList ++ shellQuoted path ++ " for reading: ".toList ++ e.message

def onFiles (name : String) (complaint : Complaint) (paths : List Text)
    (use : Text → Nat → ProcessM (Except FileFailure Unit)) : ProcessM Bool := do
  let mut ok := true
  for path in (if paths.isEmpty then [['-']] else paths) do
    match ← withFile path (use path) with
    | .ok () => pure ()
    | .error e =>
      complain name (complaint path e)
      ok := false
  return ok

def readFiles (name : String) (complaint : Complaint) (paths : List Text) :
    ProcessM (List (Text × Text) × Bool) := do
  let mut found : List (Text × Text) := []
  let mut ok := true
  for path in (if paths.isEmpty then [['-']] else paths) do
    match ← readFile path with
    | .ok t => found := (path, t) :: found
    | .error e =>
      complain name (complaint path e)
      ok := false
  return (found.reverse, ok)

/-- Filters each of some files, or the input where none is named, with something that is carried
from each to the next. What the earlier ones gave is written before a complaint. -/
def filterEach {σ : Type} (name : String) (complaint : Complaint) (paths : List Text) (start : σ)
    (f : σ → Text → Text × σ) : ProcessM Bool := do
  let mut ok := true
  let mut carried := start
  for path in (if paths.isEmpty then [['-']] else paths) do
    match ← readFile path with
    | .ok t =>
      let (u, next) := f carried t
      put u
      carried := next
    | .error e =>
      complain name (complaint path e)
      ok := false
  return ok

def linesOf (t : Text) : List Text :=
  let ls := Text.splitOn '\n' t
  if ls.getLast? = some [] then ls.dropLast else ls

def rawLines (t : Text) : List Text :=
  let ls := (Text.splitOn '\n' t)
  (ls.dropLast.map (· ++ ['\n'])) ++ (ls.getLast?.toList.filter (!·.isEmpty))

def joinLines (ls : List Text) : Text := ls.flatMap (· ++ ['\n'])

def putLines (ls : List Text) : ProcessM Unit := put (joinLines ls)

def status (ok : Bool) : Nat := if ok then 0 else 1

def filtering (name : String) (f : Text → Text) (paths : List Text) : ProcessM Nat := do
  return status (← filterEach name plainly paths () fun () t ↦ (f t, ()))

end Tool

end PpiDump
