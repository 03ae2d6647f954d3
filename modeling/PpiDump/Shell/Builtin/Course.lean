import PpiDump.Shell.Builtin.Basic

namespace PpiDump.Shell.Builtin

open ShellM

def nothing : Builtin := { name := ":", special := true, run := fun _ _ ↦ setStatus 0 }

def succeed : Builtin := { name := "true", run := fun _ _ ↦ setStatus 0 }

def fail : Builtin := { name := "false", run := fun _ _ ↦ setStatus 1 }

def takeStatus (args : List Text) : ShellM Unit := do
  match args with
  | [] => return
  | t :: _ => setStatus ((← readCount t) % 256)

def exit : Builtin := {
  name := "exit", special := true
  run := fun _ args ↦ do
    takeStatus args
    throw .exit }

def leave : Builtin := {
  name := "return", special := true
  run := fun _ args ↦ do
    match args with
    | [] => pure ()
    | t :: _ => setStatus (← readCount t)
    throw .leaveFunction }

def loopCount (args : List Text) : ShellM Nat := do
  match args with
  | [] => return 1
  | t :: _ =>
    let n ← readCount t
    if n = 0 then failWith ("Illegal number: ".toList ++ t) else return n

def leaveLoop : Builtin := {
  name := "break", special := true
  run := fun _ args ↦ do
    let n := min (← loopCount args) (← get).loops
    setStatus 0
    if 0 < n then throw (.leaveLoops n) }

def nextRound : Builtin := {
  name := "continue", special := true
  run := fun _ args ↦ do
    let n := min (← loopCount args) (← get).loops
    setStatus 0
    if 0 < n then throw (.nextRound n) }

def evaluateText : Builtin := {
  name := "eval", special := true
  run := fun e args ↦ do
    setStatus 0
    evaluate e (Text.join [' '] args) }

def scriptText (name : Text) : ShellM (Text × Text) := do
  let s ← get
  let extended ← isExtended
  let candidates ← if name.contains '/' then pure [name] else do
    let path := (s.setting? "PATH".toList).getD []
    pure ((Text.splitOn ':' path).map (fun dir ↦ dir ++ '/' :: name) ++
      if extended then [name] else [])
  let found := candidates.findSome? fun p ↦
    match s.context.find p with
    | .ok (.file f) => some (p, f.content.toChars)
    | .ok (.device .null) => some (p, [])
    | _ => none
  match found with
  | some t => return t
  | none =>
    if name.contains '/' then failWith ("cannot open ".toList ++ name ++ ": No such file".toList)
    else failWith (name ++ ": not found".toList)

def source (name : String) : Builtin := {
  name, special := true
  run := fun e args ↦ do
    match args with
    | [] => if ← isExtended then failWith "filename argument required".toList else setStatus 0
    | file :: rest =>
      let (path, t) ← scriptText file
      let before := (← get).args
      let own := !rest.isEmpty && (← isExtended)
      if own then modify fun s ↦ { s with args := rest }
      modify fun s ↦ { s with sources := s.sources + 1, command := path }
      setStatus 0
      let stop ← attempt (evaluate e t)
      modify fun s ↦ { s with sources := s.sources - 1 }
      if own then modify fun s ↦ { s with args := before }
      match stop with
      | none | some .leaveFunction => return
      | some stop => throw stop }

def shift : Builtin := {
  name := "shift", special := true
  run := fun _ args ↦ do
    let n ← match args with
      | [] => pure 1
      | t :: _ => readCount t
    let s ← get
    if s.args.length < n then
      if ← isExtended then setStatus 1 else failWith "can't shift that many".toList
    else
      set { s with args := s.args.drop n, status := 0 } }

def optionNames : List (String × Char) :=
  [("errexit", 'e'), ("noglob", 'f'), ("ignoreeof", 'I'), ("interactive", 'i'), ("monitor", 'm'),
    ("noexec", 'n'), ("stdin", 's'), ("xtrace", 'x'), ("verbose", 'v'), ("vi", 'V'),
    ("emacs", 'E'), ("noclobber", 'C'), ("allexport", 'a'), ("notify", 'b'), ("nounset", 'u')]

def optionNamesMore : List (String × Char) :=
  [("pipefail", 'P'), ("posix", 'O'), ("braceexpand", 'B'), ("hashall", 'h'), ("physical", 'D'),
    ("errtrace", 'R'), ("functrace", 'T'), ("nolog", 'L'), ("debug", 'G')]

def switchOption (on : Bool) (c : Char) : ShellM Unit :=
  modify fun s ↦
    let on' (d : Char) : Bool := if d = c then on else s.flags.contains d
    { s with flags := ((optionNames ++ optionNamesMore).map Prod.snd).filter on' }

def listOptions (inWords : Bool) : ShellM Unit := do
  let s ← get
  let extended ← isExtended
  let options := optionNames.map (fun o ↦ (o.1.toList, s.flags.contains o.2)) ++
    ["privileged", "nolog", "debug"].map fun o ↦ (o.toList, false)
  let line (o : Text × Bool) : Text :=
    if inWords then o.1 ++ Text.spaces (16 - o.1.length) ++ (if o.2 then "on" else "off").toList
    else "set ".toList ++ (if o.2 then '-' else '+') :: 'o' :: ' ' :: o.1
  if inWords && !extended then putLine "Current option settings".toList
  options.forM fun o ↦ putLine (line o)

def readOptions : List Text → ShellM (Option (List Text))
  | [] => return none
  | ['-'] :: args => do
    switchOption false 'x'
    switchOption false 'v'
    return if args.isEmpty then none else some args
  | ['-', '-'] :: args => return some args
  | (sign :: c :: cs) :: args => do
    if sign = '-' || sign = '+' then
      let on : Bool := sign = '-'
      let extended ← isExtended
      let known := optionNames ++ if extended then optionNamesMore else []
      let rec letters : Text → ShellM Bool
        | [] => return false
        | c :: cs => do
          if c = 'o' then
            let _ ← letters cs
            return true
          else if known.any (·.2 = c) && c ≠ 'i' && c ≠ 's' then
            switchOption on c
            letters cs
          else failWith ("Illegal option -".toList ++ [c])
      let named ← letters (c :: cs)
      match named, args with
      | true, [] =>
        listOptions on
        return none
      | false, args => readOptions args
      | true, name :: args =>
        match known.find? fun o ↦ o.1.toList = name with
        | some (_, c) =>
          switchOption on c
          readOptions args
        | none => failWith ("Illegal option -o ".toList ++ name)
    else return some ((sign :: c :: cs) :: args)
  | args => return some args

def setAll : Builtin := {
  name := "set", special := true
  run := fun _ args ↦ do
    if args.isEmpty then
      let vs := (← get).vars.mergeSort fun a b ↦ Text.le a.name b.name
      put (vs.flatMap fun v ↦
        match v.value with
        | some t => v.name ++ '=' :: singleQuoted t ++ ['\n']
        | none => [])
      setStatus 0
    else
      match ← readOptions args with
      | some args => modify fun s ↦ { s with args }
      | none => pure ()
      setStatus 0 }

def signalOf? (extended : Bool) (t : Text) : Option Signal :=
  if t.map Char.toUpper = "EXIT".toList then some 0
  else if !extended && t.map Char.toUpper = "STKFLT".toList then none
  else
    match Signal.ofText? t with
    | some n => some n
    | none =>
      if extended then
        (Text.after? "SIG".toList (t.map Char.toUpper)).bind Signal.ofText?
      else none

def signalName (n : Signal) : Text := if n = 0 then "EXIT".toList else n.name

def trap : Builtin := {
  name := "trap", special := true
  run := fun _ args ↦ do
    let extended ← isExtended
    let args := if args.head? = some ['-', '-'] then args.drop 1 else args
    match args with
    | [] =>
      let ts := (← get).traps.mergeSort fun a b ↦ a.1 ≤ b.1
      put (ts.flatMap fun t ↦ "trap -- ".toList ++ singleQuoted t.2 ++ ' ' ::
        (if extended && t.1 ≠ 0 then "SIG".toList else []) ++ signalName t.1 ++ ['\n'])
      setStatus 0
    | first :: rest =>
      let (action, names) : Option Text × List Text :=
        if rest.isEmpty || isNumeral first then (none, args)
        else if first = ['-'] then (none, rest)
        else (some first, rest)
      setStatus 0
      names.forM fun name ↦ do
        if (← get).status = 0 then
          match signalOf? extended name with
          | some n =>
            modify fun s ↦
              { s with traps := action.toList.map (n, ·) ++ s.traps.filter fun t ↦ t.1 ≠ n }
          | none =>
            if extended then complain (name ++ ": invalid signal specification".toList)
            else
              let _ ← system (ProcessM.put 2 ("trap: ".toList ++ name ++ ": bad trap\n".toList))
            setStatus 1 }

def processOf (t : Text) : ShellM Nat := do
  match t with
  | '%' :: n =>
    let s ← get
    let place := if isNumeral n then Text.ofDigits n else s.jobs.length
    match s.jobs.reverse[place - 1]? with
    | some job => return job.process
    | none => failWith ("No such job: ".toList ++ t)
  | '-' :: rest =>
    if isNumeral rest then readCount rest
    else failWith ("Illegal number: ".toList ++ rest)
  | t => readCount t

def send (e : Engine) (n : Signal) (process : Nat) : ShellM Bool := do
  let s ← get
  let now := s.context.process.clock
  match s.jobs.find? (·.process = process) with
  | some job =>
    if job.gone || job.ending.any (·.1 < now) then return false
    if n.effect = .ends then
      let job ← signalJob e job n
      modify fun s ↦
        { s with jobs := s.jobs.map fun j ↦ if j.process = process then job else j }
    return true
  | none =>
    if process = s.number || process = s.context.process.number then
      if n ≠ 0 then
        let sent : Sent := ⟨now, process, n⟩
        set { s with context.machine.signals := s.context.machine.signals ++ [sent] }
      return true
    else return process = 1

def killUsage : Text :=
  "Usage: kill [-s sigspec | -signum | -sigspec] [pid | job]... or\nkill -l [exitstatus]".toList

def kill : Builtin := {
  name := "kill"
  run := fun e args ↦ do
    let extended ← isExtended
    let ofName (t : Text) : ShellM Signal := do
      match signalOf? extended t with
      | some n => return n
      | none => failWith ("invalid signal number or name: ".toList ++ t)
    let sendAll (n : Signal) (targets : List Text) : ShellM Unit := do
      if targets.isEmpty then failWith killUsage
      let mut status := 0
      for t in targets do
        if !(← send e n (← processOf t)) then
          complain (if extended then '(' :: t ++ ") - No such process".toList
            else "No such process\n".toList)
          status := 1
      setStatus status
    match args with
    | [] => failWith killUsage
    | first :: rest =>
      match first with
      | '-' :: name =>
        match signalOf? extended name with
        | some n =>
          if name.map Char.toUpper = "EXIT".toList then failWith killUsage
          else sendAll n rest
        | none =>
          match ← readLetters ['l'] ['s'] args with
          | ([('s', name)], targets) => sendAll (← ofName name) targets
          | ([('l', _)], []) =>
            put ("0\n".toList ++ ((List.range Signal.last).flatMap fun (n : Nat) ↦
              (if n = 15 && !extended then Text.ofNat 16 else Signal.name (n + 1)) ++ ['\n']))
            setStatus 0
          | ([('l', _)], t :: _) =>
            let n ← readCount t
            let n := if 128 < n then n - 128 else n
            if 0 < n && n ≤ Signal.last then
              putLine (if n = 16 && !extended then Text.ofNat n else Signal.name n)
              setStatus 0
            else failWith ("invalid signal number or exit status: ".toList ++ t)
          | ([], targets) => sendAll Signal.terminate targets
          | _ => failWith killUsage
      | _ => sendAll Signal.terminate args }

def interruption? (s : State) (time : Option Nat) : Option Sent :=
  s.context.machine.signals.find? fun sent ↦
    s.isMine sent && time.all (sent.time ≤ ·) &&
      (s.trap? sent.signal).any (!·.isEmpty)

def waitFor (job : Job) : ShellM Unit := do
  match interruption? (← get) (job.ending.map Prod.fst) with
  | some sent =>
    system (ProcessM.waitUntil sent.time)
    setStatus (128 + sent.signal)
  | none =>
    let status ← await job.ending
    setStatus status.number
    modify fun s ↦ { s with
      jobs := s.jobs.map fun j ↦ if j.process = job.process then { j with gone := true } else j }

def wait : Builtin := {
  name := "wait"
  run := fun e args ↦ do
    match args with
    | [] =>
      let mut interrupted := false
      for job in (← get).jobs.reverse do
        if !interrupted then
          if (interruption? (← get) (job.ending.map Prod.fst)).isSome then interrupted := true
          waitFor job
      if !interrupted then setStatus 0
    | args =>
      for t in args do
        let process ← processOf t
        match (← get).jobs.find? (·.process = process) with
        | some job => waitFor job
        | none => setStatus 127
    answerSignals e }

def jobControl (name : String) : Builtin := {
  name
  run := fun _ _ ↦ do
    if ← isExtended then
      complain "no job control".toList
      setStatus 1
    else failWith "No current job".toList }

def jobList : Builtin := { name := "jobs", run := fun _ _ ↦ setStatus 0 }

def times : Builtin := {
  name := "times", special := true
  run := fun _ _ ↦ do
    put "0m0.000000s 0m0.000000s\n0m0.000000s 0m0.000000s\n".toList
    setStatus 0 }

end PpiDump.Shell.Builtin
