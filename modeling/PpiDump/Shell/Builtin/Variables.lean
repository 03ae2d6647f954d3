import PpiDump.Shell.Builtin.Basic

namespace PpiDump.Shell.Builtin

open ShellM

def changeVariable (name : Text) (f : Variable → Variable) : ShellM Unit := do
  let s ← get
  set (s.putVariable (f ((s.find? name).getD { name, value := none })))

def listVariables (command : String) (p : Variable → Bool) : ShellM Unit := do
  let vs := ((← get).vars.filter p).mergeSort fun a b ↦ Text.le a.name b.name
  put (vs.flatMap fun v ↦ command.toList ++ ' ' :: v.name ++
    (match v.value with
      | some t => '=' :: singleQuoted t
      | none => []) ++ ['\n'])

def marking (name : String) (mark : Variable → Variable) (p : Variable → Bool) : Builtin := {
  name, special := true, setting := true
  run := fun _ args ↦ do
    let (letters, args) ← readLetters ['p'] [] args
    if letters.any (·.1 = 'p') || args.isEmpty then listVariables name p
    else
      args.forM fun arg ↦ do
        let (x, value) := splitSetting arg
        checkName x
        match value with
        | some t => setVariable x t
        | none => pure ()
        changeVariable x mark
    setStatus 0 }

def exported : Builtin := marking "export" (fun v ↦ { v with exported := true }) (·.exported)

def fixed : Builtin := marking "readonly" (fun v ↦ { v with fixed := true }) (·.fixed)

def own : Builtin := {
  name := "local", special := true, setting := true
  run := fun _ args ↦ do
    if (← get).frames.isEmpty then failWith "not in a function".toList
    else
      let extended ← isExtended
      args.forM fun arg ↦ do
        let (x, value) := splitSetting arg
        if x ≠ ['-'] && !(extended && x.head? = some '-') then
          checkName x
          hideVariable x
          match value with
          | some t => setVariable x t
          | none =>
            if extended then
              changeVariable x fun v ↦ { v with value := none, elements := [] }
      setStatus 0 }

def unset : Builtin := {
  name := "unset", special := true
  run := fun _ args ↦ do
    let (letters, names) ← readLetters ['f', 'v'] [] args
    names.forM fun name ↦ do
      if letters.any (·.1 = 'f') then
        modify fun s ↦ { s with functions := s.functions.filter (·.1 ≠ name) }
      else
        match State.splitIndex name with
        | (base, some index) =>
          changeVariable base fun v ↦
            { v with elements := v.elements.filter (·.1 ≠ index) }
        | _ =>
          checkName name
          unsetVariable name
    setStatus 0 }

def setAlias : Builtin := {
  name := "alias", setting := true
  run := fun _ args ↦ do
    setStatus 0
    let extended ← isExtended
    let write (a : Text × Text) : Text :=
      (if extended then "alias ".toList else []) ++ a.1 ++ '=' :: singleQuoted a.2 ++ ['\n']
    if args.isEmpty then
      let l := (← get).aliases.mergeSort fun a b ↦
        if extended then Text.le a.1 b.1 else listPlace 39 a.1 ≤ listPlace 39 b.1
      put (l.flatMap write)
    else
      args.forM fun arg ↦ do
        match splitSetting arg with
        | (name, some t) =>
          modify fun s ↦
            { s with aliases := s.aliases.filter (·.1 ≠ name) ++ [(name, t)] }
        | (name, none) =>
          match (← get).aliases.find? (·.1 = name) with
          | some a => put (write a)
          | none =>
            let _ ← system (ProcessM.put 2 ("alias: ".toList ++ name ++ " not found\n".toList))
            setStatus 1 }

def unalias : Builtin := {
  name := "unalias"
  run := fun _ args ↦ do
    let (letters, names) ← readLetters ['a'] [] args
    setStatus 0
    if !letters.isEmpty then modify fun s ↦ { s with aliases := [] }
    names.forM fun name ↦ do
      if (← get).aliases.any (·.1 = name) then
        modify fun s ↦ { s with aliases := s.aliases.filter (·.1 ≠ name) }
      else
        if ← isExtended then complain (name ++ ": not found".toList)
        else
          let _ ← system (ProcessM.put 2 ("unalias: ".toList ++ name ++ " not found\n".toList))
        setStatus 1 }

/-- Reads a line, of whose characters those behind a backslash are marked. Such a line may go on
behind its line feed. -/
def readMarked (raw : Bool) : Nat → ShellM (List (Char × Bool) × Bool)
  | 0 => throw .stuck
  | fuel + 1 => do
    match ← system (ProcessM.readLine 0) with
    | .error _ => return ([], false)
    | .ok (t, complete) =>
      let t := t.filter (· ≠ '\x00')
      let line := if complete then t.dropLast else t
      if raw then return (line.map (·, false), complete)
      else
        let (marked, goesOn) := mark line
        if goesOn && complete then
          let (more, complete) ← readMarked raw fuel
          return (marked ++ more, complete)
        else return (marked, complete)
where
  mark : Text → List (Char × Bool) × Bool
    | [] => ([], false)
    | ['\\'] => ([], true)
    | '\\' :: c :: rest =>
      let (cs, goesOn) := mark rest
      ((c, true) :: cs, goesOn)
    | c :: rest =>
      let (cs, goesOn) := mark rest
      ((c, false) :: cs, goesOn)

def cutWord (separators : Text) (cs : List (Char × Bool)) :
    List (Char × Bool) × List (Char × Bool) :=
  let isSeparator (c : Char × Bool) : Bool := !c.2 && separators.contains c.1
  let isBlank' (c : Char × Bool) : Bool := isSeparator c && " \t\n".toList.contains c.1
  let word := cs.takeWhile (!isSeparator ·)
  let rest := (cs.drop word.length).dropWhile isBlank'
  match rest with
  | c :: more => if isSeparator c then (word, more.dropWhile isBlank') else (word, rest)
  | [] => (word, [])

def wordsFor (separators : Text) : Nat → List (Char × Bool) → List Text
  | 0, _ => []
  | 1, cs =>
    let isBlank' (c : Char × Bool) : Bool :=
      !c.2 && separators.contains c.1 && " \t\n".toList.contains c.1
    let (word, rest) := cutWord separators cs
    [(if rest.isEmpty then word else (cs.reverse.dropWhile isBlank').reverse).map Prod.fst]
  | n + 1, cs =>
    let (word, rest) := cutWord separators cs
    word.map Prod.fst :: wordsFor separators n rest

def trimStart (separators : Text) (cs : List (Char × Bool)) : List (Char × Bool) :=
  cs.dropWhile fun c ↦ !c.2 && separators.contains c.1 && " \t\n".toList.contains c.1

def allWords (separators : Text) : Nat → List (Char × Bool) → List Text
  | 0, _ => []
  | fuel + 1, cs =>
    if cs.isEmpty then []
    else
      let (word, rest) := cutWord separators cs
      word.map Prod.fst :: allWords separators fuel rest

def setElements (name : Text) (ts : List Text) : ShellM Unit := do
  let elements := ts.mapIdx fun i t ↦ (Text.ofNat i, t)
  changeVariable name fun v ↦ { v with value := ts.head?, elements }

def readLine : Builtin := {
  name := "read"
  run := fun _ args ↦ do
    let extended ← isExtended
    let (letters, names) ←
      if extended then readLetters ['r', 's', 'e'] ['p', 'a', 'd', 'n', 'N', 't', 'u', 'i'] args
      else readLetters ['r'] ['p'] args
    let list? := (letters.find? (·.1 = 'a')).map Prod.snd
    if names.isEmpty && !extended then failWith "arg count".toList
    if names.isEmpty && list?.isNone then
      let (cs, complete) ← readMarked (letters.any (·.1 = 'r')) 1000000
      setVariable "REPLY".toList (cs.map Prod.fst)
      answer complete
    else
      let raw := letters.any (·.1 = 'r')
      let (cs, complete) ←
        match (letters.find? fun l ↦ l.1 = 'n' || l.1 = 'N'), letters.find? (·.1 = 'd') with
        | some (_, n), _ => do
          let t := (← system (ProcessM.readCount 0 (Text.ofDigits n))).toOption.getD []
          let line := t.takeWhile (· ≠ '\n')
          pure (line.map (·, false), t.length = Text.ofDigits n || line.length < t.length)
        | none, some (_, d) => do
          let stop := d.headD '\x00'
          let r ← system (ProcessM.take 0 (Inflow.takeThrough (· = stop)))
          match r with
          | .ok (t, complete) =>
            pure ((if complete then t.dropLast else t).map (·, false), complete)
          | .error _ => pure ([], false)
        | none, none => readMarked raw 1000000
      let separators := (← get).separators
      let cs := trimStart separators cs
      match list? with
      | some name => setElements name (allWords separators (cs.length + 1) cs)
      | none =>
        (names.zip (wordsFor separators names.length cs)).forM fun (name, t) ↦ do
          checkName name
          setVariable name t
      answer complete }

def nextOption : Builtin := {
  name := "getopts"
  run := fun _ args ↦ do
    match args with
    | known :: name :: rest =>
      let s ← get
      let args := if rest.isEmpty then s.args else rest
      let silent : Bool := known.head? = some ':'
      let indexName := "OPTIND".toList
      let index := max 1 (Text.ofDigits ((s.setting? indexName).getD ['1']))
      let settle (index place : Nat) (found : Text) (value : Option Text) (status : Nat) :
          ShellM Unit := do
        setVariable indexName (Text.ofNat index)
        modify fun s ↦ { s with optionPlace := place }
        match value with
        | some t => setVariable "OPTARG".toList t
        | none => unsetVariable "OPTARG".toList
        setVariable name found
        setStatus status
      let arg := (args[index - 1]?).getD []
      let place := if arg.length ≤ s.optionPlace then 1 else s.optionPlace
      if place = 1 && (arg.length < 2 || arg.head? ≠ some '-') then
        settle index 1 ['?'] none 1
      else if place = 1 && arg = ['-', '-'] then settle (index + 1) 1 ['?'] none 1
      else
        match arg.drop place with
        | [] => settle index 1 ['?'] none 1
        | c :: more =>
          let (index', place') := if more.isEmpty then (index + 1, 1) else (index, place + 1)
          let after := (known.dropWhile (· ≠ c)).drop 1
          if c = ':' || !known.contains c then
            if !silent then
              let _ ← system (ProcessM.put 2 ("Illegal option -".toList ++ c :: ['\n']))
            settle index' place' ['?'] (if silent then some [c] else none) 0
          else if after.head? = some ':' then
            if !more.isEmpty then settle (index + 1) 1 [c] (some more) 0
            else
              match args[index]? with
              | some value => settle (index + 2) 1 [c] (some value) 0
              | none =>
                if silent then settle (index + 1) 1 [':'] (some [c]) 0
                else
                  let _ ← system (ProcessM.put 2
                    ("No arg for -".toList ++ c :: " option\n".toList))
                  settle (index + 1) 1 ['?'] none 0
          else settle index' place' [c] none 0
    | _ => failWith "Usage: getopts optstring var [arg...]".toList }

def physical (c : Context) : Text := (Utf8.encode c.process.directory.text).toChars

/-- A path from the directory that is known by a name: two dots lead back by a name, even one that
is a link. -/
def pathFrom (here t : Text) : Text :=
  let start := if t.head? = some '/' then [] else Text.splitOn '/' here
  let names := (start.filter (!·.isEmpty)).reverse
  let names := (Text.splitOn '/' t).foldl (fun names part ↦
    if part.isEmpty || part = ['.'] then names
    else if part = ['.', '.'] then names.drop 1
    else part :: names) names
  if names.isEmpty then ['/'] else names.reverse.flatMap ('/' :: ·)

def isDirect (t : Text) : Bool :=
  match Text.splitOn '/' t with
  | first :: _ => t.head? = some '/' || first = ['.'] || first = ['.', '.']
  | [] => true

def changeDirectory (name : String) : Builtin := {
  name
  run := fun _ args ↦ do
    let (letters, args) ← readLetters ['L', 'P'] [] args
    let s ← get
    let extended ← isExtended
    let back : Bool := args.head? = some ['-']
    let homeless : Bool := args.isEmpty && (s.setting? "HOME".toList).isNone
    if extended && (1 < args.length || homeless) then
      complain (if homeless then "HOME not set" else "too many arguments").toList
      setStatus 1
    else
      let target := match args with
        | [] => (s.setting? "HOME".toList).getD []
        | t :: _ => if back then (s.setting? "OLDPWD".toList).getD [] else t
      let isPhysical : Bool := (letters.getLast?.map Prod.fst) = some 'P'
      let reach (t : Text) : Option (Path × Text) :=
        let t := if isPhysical then t else pathFrom s.directory t
        match s.context.find t, s.context.locate t with
        | .ok .directory, .ok path => some (path, t)
        | _, _ => none
      let others := if isDirect target || target.isEmpty then []
        else (Text.splitOn ':' ((s.setting? "CDPATH".toList).getD [])).filter (!·.isEmpty)
      let found? := (others.findSome? fun dir ↦ (reach (dir ++ '/' :: target)).map (·, true)).or
        ((reach (if target.isEmpty then ['.'] else target)).map (·, back))
      match found? with
      | some ((path, t), tells) =>
        system (ProcessM.changeProcess fun p ↦ { p with directory := path })
        let old := s.directory
        modify fun s ↦ { s with directory := if isPhysical then physical s.context else t }
        let now := (← get).directory
        [("OLDPWD", old), ("PWD", now)].forM fun (x, t) ↦ do
          setVariable x.toList t
          changeVariable x.toList fun v ↦ { v with exported := true }
        if tells then putLine now
        setStatus 0
      | none =>
        if extended then
          complain (target ++ ": ".toList ++ (match s.context.find target with
            | .ok _ => FileFailure.notDirectory
            | .error e => e).message)
          setStatus 1
        else failWith ("can't cd to ".toList ++ target) }

def directory : Builtin := {
  name := "pwd"
  run := fun _ args ↦ do
    let (letters, _) ← readLetters ['L', 'P'] [] args
    let s ← get
    putLine (if (letters.getLast?.map Prod.fst) = some 'P' then physical s.context else s.directory)
    setStatus 0 }

def octal (digits n : Nat) : Text :=
  let ds := Nat.toDigits 8 n
  List.replicate (digits - ds.length) '0' ++ ds

def permissions (mask : Nat) : Text :=
  let letters (shift : Nat) : Text :=
    let bits := 7 - mask / shift % 8
    (if bits / 4 % 2 = 1 then ['r'] else []) ++ (if bits / 2 % 2 = 1 then ['w'] else []) ++
      if bits % 2 = 1 then ['x'] else []
  "u=".toList ++ letters 64 ++ ",g=".toList ++ letters 8 ++ ",o=".toList ++ letters 1

def changeMask? (mask : Nat) (t : Text) : Option Nat :=
  (Text.splitOn ',' t).foldlM (fun mask clause ↦
    let who := clause.takeWhile fun c ↦ "ugoa".toList.contains c
    match clause.drop who.length with
    | sign :: letters =>
      if !(sign = '+' || sign = '-' || sign = '=') ||
          !letters.all fun c ↦ "rwxXs".toList.contains c then none
      else
        let bits := (if letters.contains 'r' then 4 else 0) +
          (if letters.contains 'w' then 2 else 0) + if letters.contains 'x' then 1 else 0
        let change (c : Char) (shift : Nat) : Nat :=
          let old := mask / shift % 8
          let new := if who.isEmpty || who.contains c || who.contains 'a' then
              if sign = '=' then 7 - bits
              else if sign = '-' then old ||| bits
              else old &&& (7 - bits)
            else old
          new * shift
        some (change 'u' 64 + change 'g' 8 + change 'o' 1)
    | [] => none) mask

def mask : Builtin := {
  name := "umask"
  run := fun _ args ↦ do
    let (letters, args) ← readLetters ['S'] [] args
    setStatus 0
    let s ← get
    match args with
    | [] =>
      putLine (if letters.isEmpty then octal 4 s.mask else permissions s.mask)
    | t :: _ =>
      if (t.head?.getD ' ').isDigit then
        if t.all fun c ↦ '0' ≤ c && c ≤ '7' then
          set { s with mask := t.foldl (fun (n : Nat) (c : Char) ↦ 8 * n + (c.toNat - '0'.toNat)) 0 % 512 }
        else failWith ("Illegal number: ".toList ++ t)
      else
        match changeMask? s.mask t with
        | some mask => set { s with mask }
        | none => failWith ("Illegal mode: ".toList ++ t) }

def limit : Builtin := {
  name := "ulimit"
  run := fun _ args ↦ do
    let (letters, args) ← readLetters "HSatfdscmlpnvwr".toList [] args
    setStatus 0
    if args.isEmpty then
      putLine (if letters.any (·.1 = 'n') then "1048576".toList else "unlimited".toList) }

end PpiDump.Shell.Builtin
