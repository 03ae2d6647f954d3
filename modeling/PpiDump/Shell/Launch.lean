import PpiDump.Shell.Builtin.Course
import PpiDump.Shell.Builtin.Variables
import PpiDump.Tool.Table

namespace PpiDump.Shell

namespace ShellM

def endWith {α : Type} (status : Nat) : ShellM α := throw (.replaced (.code status))

def sayAs (name : String) (message : Text) : ShellM Unit := system (Tool.complain name message)

/-- Who runs a program: the shell, or another program, which tells in its own words when that is
not possible. -/
inductive Caller where
  | shell
  | program (opening : String) (quotes : Bool)
  deriving DecidableEq, Repr

def defaults : List (String × String) :=
  [("IFS", " \t\n"), ("OPTIND", "1"), ("PS1", "# "), ("PS2", "> "), ("PS4", "+ "),
    ("PATH", "/usr/local/sbin:/usr/local/bin:/usr/sbin:/usr/bin:/sbin:/bin")]

/-- A shell that starts anew in the process of another. Only what is exported stays. -/
def freshShell (s : State) (dialect : Dialect) (name : Text) (args : List Text)
    (flags : List Char) : State :=
  let number := s.context.process.number
  let kept := (s.vars.filter fun v ↦ v.exported).map fun v ↦ { v with fixed := false }
  let physical := Builtin.physical s.context
  let directory := match (kept.find? fun v ↦ v.name = "PWD".toList).bind Variable.value with
    | some t =>
      if t.head? = some '/' && (s.context.locate t).toOption = some s.context.process.directory
      then t else physical
    | none => physical
  let own : List Variable := ((defaults.filter fun d ↦
      dialect = .plain || !(d.1 = "PS1" || d.1 = "PS2")).map fun d ↦
      { name := d.1.toList, value := some d.2.toList }) ++
    [{ name := "PPID".toList, value := some (Text.ofNat (number - 1)) }]
  let here : Variable := { name := "PWD".toList, value := some directory, exported := true }
  { context := s.context
    number, dialect, name, args, flags, directory
    vars := (own.filter fun v ↦ !(kept.any (·.name = v.name))) ++
      kept.filter (·.name ≠ here.name) ++ [here]
    traps := s.traps.filter fun t ↦ t.2.isEmpty }

def becomeShell {α : Type} (e : Engine) (dialect : Dialect) (name : Text) (args : List Text)
    (flags : List Char) (t : Text) : ShellM α := do
  modify fun s ↦ freshShell s dialect name args flags
  match ← finish e (evaluate e t) with
  | some status => throw (.replaced status)
  | none => throw .stuck

structure ShellOptions where
  flags : List Char := []
  inArgument : Bool := false
  inInput : Bool := false
  operands : List Text := []

def readShellOptions (known : List (String × Char)) : List Text → Except Text ShellOptions
  | [] => .ok {}
  | ['-', '-'] :: args => .ok { operands := args }
  | ['-'] :: args => .ok { operands := args }
  | (sign :: c :: cs) :: args =>
    if sign ≠ '-' && sign ≠ '+' then .ok { operands := (sign :: c :: cs) :: args }
    else
      let add (o : ShellOptions) (letter : Char) : ShellOptions :=
        if letter = 'c' then { o with inArgument := true }
        else if letter = 's' then { o with inInput := true }
        else if letter = 'i' || letter = 'l' then o
        else if sign = '-' then { o with flags := letter :: o.flags }
        else { o with flags := o.flags.filter (· ≠ letter) }
      if (c :: cs).getLast? = some 'o' then
        match args with
        | name :: args =>
          match known.find? fun k ↦ k.1.toList = name with
          | some (_, letter) =>
            (readShellOptions known args).map fun o ↦
              (letter :: (c :: cs).dropLast).foldl add o
          | none => .error ("Illegal option -o ".toList ++ name)
        | [] => .ok {}
      else
        match (c :: cs).find? fun letter ↦
            !(letter = 'c' || letter = 's' || letter = 'i' || letter = 'l' ||
              known.any (·.2 = letter)) with
        | some letter => .error ("Illegal option -".toList ++ [letter])
        | none => (readShellOptions known args).map fun o ↦ (c :: cs).foldl add o
  | args => .ok { operands := args }

def becomeShellWith (e : Engine) (dialect : Dialect) (name : Text) (args : List Text) :
    ShellM Unit := do
  let args := if dialect = .extended then
      args.filter fun a ↦ !("--".toList.isPrefixOf a && 2 < a.length)
    else args
  let known := Builtin.optionNames ++
    if dialect = .extended then Builtin.optionNamesMore else []
  match readShellOptions known args with
  | .error message =>
    sayAs (String.ofList name) ("0: ".toList ++ message)
    endWith 2
  | .ok o =>
    if o.inArgument then
      match o.operands with
      | [] =>
        sayAs (String.ofList name) "0: -c requires an argument".toList
        endWith 2
      | t :: [] => becomeShell e dialect name [] o.flags t
      | t :: zero :: rest => becomeShell e dialect zero rest o.flags t
    else if o.inInput || o.operands.isEmpty then
      let t := (← system (ProcessM.readAll 0)).toOption.getD []
      becomeShell e dialect name o.operands o.flags t
    else
      match o.operands with
      | file :: rest =>
        match ← system (Tool.readFile file) with
        | .ok t => becomeShell e dialect file rest o.flags t
        | .error f =>
          if dialect = .extended then
            sayAs (String.ofList name) (file ++ ": ".toList ++ f.message)
            endWith (if f = .missing then 127 else 126)
          else
            sayAs (String.ofList name) ("0: cannot open ".toList ++ file ++ ": No such file".toList)
            endWith 2
      | [] => endWith 0

variable (become : Caller → List Text → ShellM Unit)

def exportVariable (name value : Text) : ShellM Unit :=
  Builtin.changeVariable name fun v ↦ { v with value := some value, exported := true }

def runEnv : List Text → ShellM Unit
  | [] => do
    let vs := (← get).vars.filter (·.exported)
    let _ ← system (Tool.put (vs.flatMap fun v ↦
      match v.value with
      | some t => v.name ++ '=' :: t ++ ['\n']
      | none => []))
    endWith 0
  | arg :: args => do
    match arg with
    | ['-', 'i'] | ['-'] =>
      modify fun s ↦ { s with vars := s.vars.filter (!·.exported) }
      runEnv args
    | ['-', 'u'] =>
      match args with
      | name :: args =>
        modify fun s ↦ { s with vars := s.vars.filter (·.name ≠ name) }
        runEnv args
      | [] => endWith 125
    | '-' :: 'S' :: words =>
      become .shell ("env".toList :: ((Text.splitOn ' ' words).filter (!·.isEmpty) ++ args))
    | '-' :: _ =>
      let _ ← system (Tool.misuse "env" ("invalid option -- ".toList ++
        Tool.quoted ((arg.drop 1).take 1)) 125)
      endWith 125
    | _ =>
      match splitSetting arg with
      | (name, some value) =>
        exportVariable name value
        runEnv args
      | (_, none) => become (.program "env: " true) (arg :: args)

def dropOptions (valued : List Char) : List Text → List Text
  | [] => []
  | ['-', '-'] :: args => args
  | ['-', c] :: args =>
    if valued.contains c then
      match args with
      | _ :: args => dropOptions valued args
      | [] => []
    else dropOptions valued args
  | ('-' :: _ :: _ :: _) :: args => dropOptions valued args
  | args => args

def runPlainly (name opening : String) (quotes : Bool) (valued : List Char) (args : List Text) :
    ShellM Unit := do
  match args with
  | ('-' :: c :: _) :: _ =>
    if c ≠ '-' && !valued.contains c then
      let _ ← system (Tool.misuse name ("invalid option -- ".toList ++ Tool.quoted [c]) 125)
      endWith 125
  | _ => pure ()
  match dropOptions valued args with
  | [] =>
    if name = "nice" then
      let _ ← system (Tool.put "0\n".toList)
      endWith 0
    else
      let _ ← system (Tool.misuse name "missing operand".toList 125)
      endWith 125
  | args => become (.program (name ++ opening) quotes) args

variable (e : Engine)

def runTimeout (args : List Text) : ShellM Unit := do
  let known : Tool.Known := {
    letters := "v", valued := "ks", strict := true
    long := [("signal", 's'), ("kill-after", 'k'), ("preserve-status", 'p'), ("foreground", 'v')] }
  match Tool.readArguments { known with letters := "vp" } args with
  | .error message =>
    let _ ← system (Tool.misuse "timeout" message 125)
    endWith 125
  | .ok g =>
    match g.operands with
    | limit :: command :: rest =>
      match Tool.duration? limit with
      | none =>
        let _ ← system (Tool.misuse "timeout"
          ("invalid time interval ".toList ++ Tool.quoted limit) 125)
        endWith 125
      | some ms =>
        let now := (← get).context.process.clock
        let job ← fork e true
          (become (.program "timeout: failed to run command " true) (command :: rest))
        let n := ((g.value? 's').bind (Builtin.signalOf? true)).getD Signal.terminate
        let late : Bool := match job.ending with
          | some (time, _) => now + ms < time
          | none => true
        if late && 0 < ms then
          modify fun s ↦ { s with
            context.machine :=
              s.context.machine.cutOff (s.context.machine.isOfJob job.process) (now + ms) }
          system (ProcessM.waitUntil (now + ms))
          endWith (if n = Signal.kill then 137 else if g.has 'p' then 128 + n else 124)
        else
          let status ← await job.ending
          endWith status.number
    | _ =>
      let _ ← system (Tool.misuse "timeout" "missing operand".toList 125)
      endWith 125

def inputWords : Nat → Option Text → Text → List Text
  | 0, _, _ => []
  | fuel + 1, current, t =>
    let close : List Text := current.toList.map List.reverse
    match t with
    | [] => close
    | '\\' :: c :: rest => inputWords fuel (some (c :: current.getD [])) rest
    | c :: rest =>
      if c = '\'' || c = '"' then
        let inside := rest.takeWhile (· ≠ c)
        inputWords fuel (some (inside.reverse ++ current.getD []))
          (rest.drop (inside.length + 1))
      else if isSpace c then close ++ inputWords fuel none rest
      else inputWords fuel (some (c :: current.getD [])) rest

def groupsOf {α : Type} (n : Nat) : Nat → List α → List (List α)
  | 0, _ => []
  | _ + 1, [] => []
  | fuel + 1, l => l.take (max 1 n) :: groupsOf n fuel (l.drop (max 1 n))

def runArguments (args : List Text) : ShellM Unit := do
  let known : Tool.Known := {
    letters := "0rtxp", valued := "nILPdsEa", strict := true
    long := [("null", '0'), ("no-run-if-empty", 'r'), ("max-args", 'n'), ("max-procs", 'P'),
      ("delimiter", 'd'), ("verbose", 't'), ("max-lines", 'L'), ("replace", 'I')] }
  match Tool.readArguments known args with
  | .error message =>
    let _ ← system (Tool.misuse "xargs" message 1)
    endWith 1
  | .ok g =>
    let t := (← system (ProcessM.readAll 0)).toOption.getD []
    let command := if g.operands.isEmpty then ["echo".toList] else g.operands
    let separated (c : Char) : List Text :=
      let ws := Text.splitOn c t
      if ws.getLast? = some [] then ws.dropLast else ws
    let delimiter := (g.value? 'd').map fun d ↦
      if d = "\\n".toList then '\n' else if d = "\\t".toList then '\t' else d.headD '\n'
    let words := if g.has '0' then separated '\x00'
      else match delimiter with
        | some c => separated c
        | none =>
          if g.has 'I' then (Tool.linesOf t).map (fun l ↦ l.dropWhile isSpace) |>.filter
            (!·.isEmpty)
          else inputWords (t.length + 1) none t
    let runs : List (List Text) := match g.value? 'I' with
      | some mark => words.map fun w ↦ command.map fun c ↦
          if mark.isEmpty then c else Text.substitute mark w c
      | none =>
        match g.value? 'L' with
        | some n => (groupsOf (Text.ofDigits n) (t.length + 1) (Tool.linesOf t)).map fun ls ↦
            command ++ ls.flatMap fun l ↦ inputWords (l.length + 1) none l
        | none =>
          let n := ((g.value? 'n').map Text.ofDigits).getD 5000
          if words.isEmpty then if g.has 'r' then [] else [command]
          else (groupsOf n (words.length + 1) words).map (command ++ ·)
    let mut status := 0
    for run in runs do
      let job ← fork e false do
        system do
          match ← ProcessM.openFile .read "/dev/null".toList with
          | .ok n => ProcessM.setDescriptor 0 (some n)
          | .error _ => pure ()
        become (.program "xargs: " false) run
      match ← await job.ending with
      | .code 0 => pure ()
      | .code 255 => endWith 124
      | .code 126 => endWith 126
      | .code 127 => endWith 127
      | .code _ => status := 123
      | .signal .. => endWith 125
    endWith status

def runPrintenv (args : List Text) : ShellM Unit := do
  match args with
  | [] => runEnv become []
  | ('-' :: c :: _) :: _ =>
    let _ ← system (Tool.misuse "printenv" ("invalid option -- ".toList ++ Tool.quoted [c]) 2)
    endWith 2
  | names =>
    let mut status := 0
    for name in names do
      match (← get).find? name with
      | some { exported := true, value := some t, .. } =>
        let _ ← system (Tool.put (t ++ ['\n']))
      | _ => status := 1
    endWith status

def runners : List (Text × (List Text → ShellM Unit)) :=
  [("sh", becomeShellWith e .plain "sh".toList), ("dash", becomeShellWith e .plain "dash".toList),
    ("bash", becomeShellWith e .extended "bash".toList),
    ("rbash", becomeShellWith e .extended "rbash".toList),
    ("env", runEnv become), ("nohup", runPlainly become "nohup" ": failed to run command " true []),
    ("nice", runPlainly become "nice" ": " true ['n']),
    ("stdbuf", runPlainly become "stdbuf" ": failed to run command " true ['i', 'o', 'e']),
    ("setsid", runPlainly become "setsid" ": failed to execute " false []), ("timeout", runTimeout become e),
    ("xargs", runArguments become e), ("printenv", runPrintenv become)].map
    fun r ↦ (r.1.toList, r.2)

/-- Programs of which it is only known how they end with arguments that they do not know. -/
def refusals : List (Text × Nat) :=
  [("awk", 2), ("mawk", 2), ("nawk", 2), ("cmp", 2), ("diff", 2), ("diff3", 2), ("dir", 2),
    ("vdir", 2), ("egrep", 2), ("fgrep", 2), ("rgrep", 2), ("zgrep", 2), ("zegrep", 2),
    ("zfgrep", 2), ("zcmp", 2), ("zdiff", 2), ("getconf", 2), ("getopt", 2), ("getent", 64),
    ("iconv", 64), ("locale", 64), ("flock", 64), ("chroot", 125), ("runcon", 125), ("tar", 64),
    ("pgrep", 2), ("pkill", 2), ("sdiff", 2), ("tty", 2)].map fun r ↦ (r.1.toList, r.2)

/-- The program and the option that the first line of a script names after `#!`. -/
def interpreter? (content : Text) : Option (List Text) :=
  match content.takeWhile (· ≠ '\n') with
  | '#' :: '!' :: line =>
    let line := trimBlanks line
    let program := line.takeWhile (!isBlank ·)
    let option := (line.drop program.length).dropWhile isBlank
    if program.isEmpty then none
    else some (program :: if option.isEmpty then [] else [option])
  | _ => none

/-- Becomes a tool. A signal that comes before it is done ends it, and nothing that it did
afterwards has happened. -/
def becomeTool (tool : ProcessM Nat) : ShellM Unit := do
  let s ← get
  let (status, c) := tool s.context
  set { s with context := c }
  let ending := if c.process.stuck then none else some c.process.clock
  match (← get).fatal? ending with
  | some sent =>
    modify fun s ↦ { s with
      context.machine := s.context.machine.cutOff (· = c.process.number) sent.time
      context.process := { s.context.process with clock := sent.time, stuck := false } }
    die sent
  | none => if c.process.stuck then throw .stuck else endWith status

def letGo : ShellM Unit := do
  let s ← get
  system (ProcessM.hold s.saved (some s.context.process.clock))
  modify fun s ↦ { s with saved := [], traps := s.traps.filter (·.2.isEmpty) }

def refuse (who : Caller) (name : Text) (status : Nat) (reason general : String) :
    ShellM Unit := do
  match who with
  | .shell =>
    if ← isExtended then modify fun s ↦ { s with command := [] }
    complain (name ++ ": ".toList ++ reason.toList)
  | .program opening quotes =>
    let _ ← system (ProcessM.put 2 (opening.toList ++ (if quotes then Tool.quoted name else name) ++
      ": ".toList ++ general.toList ++ ['\n']))
  endWith status

def notThere : String := "No such file or directory"

def becomeAt (who : Caller) (written : Text) (path : Path) (f : File) (args : List Text) :
    ShellM Unit := do
  letGo
  let standard? := match path.reverse with
    | name :: above =>
      if above.reverse = Path.ofString "usr/bin" && f.content.isEmpty then some name else none
    | [] => none
  match standard? with
  | some name =>
    let name := Bytes.toChars (Utf8.encode name)
    match (runners become e).find? (·.1 = name), Tool.find? name with
    | some (_, run), _ => run args
    | none, some tool => becomeTool (tool args)
    | none, none =>
      endWith (((refusals.find? (·.1 = name)).map Prod.snd).getD 1)
  | none =>
    let content := f.content.toChars
    match interpreter? content with
    | some (program :: options) =>
      let extended ← isExtended
      match (← get).context.find program with
      | .ok (.file { executable := true, .. }) =>
        become who (program :: options ++ written :: args)
      | .ok _ => refuse who written 126 "Permission denied" "Permission denied"
      | .error _ =>
        if extended && who = .shell then
          refuse who (written ++ ": ".toList ++ program) 126 ("bad interpreter: " ++ notThere) ""
        else refuse who written 127 "not found" notThere
    | _ =>
      let dialect ← if who = .shell then pure (← get).dialect else pure .plain
      becomeShell e dialect written args [] content

def becomeProgram (who : Caller) (command : List Text) : ShellM Unit := do
  match command with
  | [] => endWith 0
  | name :: args =>
    let extended ← isExtended
    let s ← get
    let path := (s.setting? "PATH".toList).getD (if who = .shell then [] else "/bin:/usr/bin".toList)
    match programIn s.context path name with
    | none => refuse who name 127 (if extended then "command not found" else "not found") notThere
    | some written =>
      match s.context.find written, s.context.locate written with
      | .ok (.file f), .ok path =>
        if f.executable then becomeAt become e who written path f args
        else refuse who name 126 "Permission denied" "Permission denied"
      | .ok _, _ =>
        refuse who name 126 (if extended then "Is a directory" else "Permission denied")
          "Permission denied"
      | .error _, _ => refuse who name 127 (if extended then notThere else "not found") notThere

end ShellM

end PpiDump.Shell
