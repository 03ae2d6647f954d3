import PpiDump.Shell.Launch
import PpiDump.Shell.Builtin.Words

namespace PpiDump.Shell

namespace ShellM

def coreBuiltins : List Builtin :=
  [.nothing, .succeed, .fail, .exit, .leave, .leaveLoop, .nextRound, .evaluateText, .source ".",
    .shift, .setAll, .trap, .kill, .wait, .jobList, .times, .exported, .fixed, .own, .unset,
    .setAlias, .unalias, .readLine, .nextOption, .changeDirectory "cd", .changeDirectory "chdir",
    .directory, .mask, .limit, .echo, .print, .test, .bracket, .hash, .jobControl "fg",
    .jobControl "bg"]

def directing : List (Text × Bool) :=
  [("exec", true), ("command", false), ("type", false)].map fun d ↦ (d.1.toList, d.2)

def builtinNames : List (Text × Bool) :=
  coreBuiltins.map (fun b ↦ (b.name.toList, b.special)) ++ directing

def extendedBuiltins : List Builtin :=
  [.source "source", { Builtin.own with name := "declare" }, { Builtin.own with name := "typeset" }]

def builtinsByName : List (Text × Builtin) :=
  (coreBuiltins ++ [Builtin.typeOf builtinNames]).map fun b ↦ (b.name.toList, b)

def builtin? (name : Text) : ShellM (Option Builtin) := do
  match builtinsByName.find? (·.1 = name) with
  | some (_, b) => return some b
  | none =>
    if ← isExtended then return extendedBuiltins.find? (·.name.toList = name) else return none

variable (e : Engine)

def takesSettings : List Word → ShellM Bool
  | [] => return false
  | w :: ws => do
    match w.plain? with
    | some name =>
      if name = "command".toList then takesSettings ws
      else return ((← builtin? name).map Builtin.setting).getD false
    | none => return false

def expandArguments (ws : List Word) : ShellM (List Text) := do
  match ws with
  | [] => return []
  | first :: rest =>
    let head ← expandWord e first
    if rest.isEmpty then return head
    else if ← takesSettings ws then
      let mut done : List (List Text) := [head]
      for w in rest do
        let ts ← if isSettingWord w then
            do pure [← expandText e true w]
          else expandWord e w
        done := ts :: done
      return done.reverse.flatten
    else return head ++ (← expandWords e rest)

def carryOut : Setting → ShellM Unit
  | .mk name index appends value elements => do
    match elements with
    | some ws =>
      let ts ← expandWords e ws
      let old ← if appends then elementsOf name else pure []
      let start := (old.map fun x ↦ Text.ofDigits x.1 + 1).foldl max 0
      let new := ts.mapIdx fun i t ↦ (Text.ofNat (start + i), t)
      let all := old ++ new
      Builtin.changeVariable name fun v ↦
        { v with elements := all, value := (all.find? (·.1 = ['0'])).map Prod.snd }
    | none =>
      let t ← expandText e true value
      let target ← match index with
        | none => pure name
        | some w => do
          let i ← placeOf (← expandText e false w)
          pure (name ++ '[' :: i ++ [']'])
      let t ← if appends then do pure (((← single? target).getD []) ++ t) else pure t
      assign target t

def settingName : Setting → Text
  | .mk name .. => name

def checkFailure (manner : Manner) : ShellM Unit := do
  if !manner.tested then
    let s ← get
    if s.status ≠ 0 && s.flags.contains 'e' then throw .exit

def errorsOpen : ShellM (Option Nat) := do
  return ((← get).context.process.descriptors.find? fun d ↦ d.1 = 2).map Prod.snd

def trace (errors : Option Nat) (settings : List (Text × Text)) (args : List Text) :
    ShellM Unit := do
  if ← hasFlag 'x' then
    let s ← get
    let mark := (s.setting? "PS4".toList).getD []
    let extended ← isExtended
    let show' (t : Text) : Text :=
      if !extended then t
      else if !t.isEmpty && t.all fun c ↦ c.isAlphanum || "_-./:=@%+,".toList.contains c then t
      else singleQuoted t
    let words := settings.map (fun p ↦ p.1 ++ '=' :: show' p.2) ++ args.map show'
    system do
      let descriptors := (← get).process.descriptors
      ProcessM.setDescriptor 2 errors
      let _ ← ProcessM.put 2 (mark ++ Text.join [' '] words ++ ['\n'])
      ProcessM.changeProcess fun p ↦ { p with descriptors }

def carryOutAll : List Setting → ShellM (List (Text × Text))
  | [] => return []
  | s :: rest => do
    carryOut e s
    let value := ((← get).parameter? (settingName s)).getD []
    return (settingName s, value) :: (← carryOutAll rest)

def callFunction (manner : Manner) (body : Command) (args : List Text) : ShellM Unit := do
  let before ← get
  set { before with args, frames := [] :: before.frames, loops := 0 }
  let restore : ShellM Unit := do
    restoreFrame
    modify fun s ↦ { s with args := before.args, loops := before.loops }
  match ← attempt (e.run manner.inside body) with
  | none | some .leaveFunction => restore
  | some stop =>
    restore
    throw stop

def hasTraps : ShellM Bool := return (← get).traps.any fun t ↦ !t.2.isEmpty

/-- Runs a program in a process of its own, or in this one if it has nothing else to do. -/
def runProgram (become : Caller → List Text → ShellM Unit) (manner : Manner) (command : List Text) :
    ShellM Unit := do
  let name := command.headD []
  if !name.contains '/' && (← findProgram name).isSome then
    remember name
  if manner.last && !(← hasTraps) then become .shell command
  else
    let job ← fork e false (become .shell command)
    let status ← await job.ending
    setStatus status.number

def runBuiltin (b : Builtin) (special : Bool) (args : List Text) : ShellM Unit := do
  let before := (← get).command
  modify fun s ↦ { s with command := b.name.toList }
  let stop ← attempt (b.run e args)
  modify fun s ↦ { s with command := before }
  match stop with
  | none => return
  | some .failed =>
    if special && !(← isExtended) then throw .failed
    else if (← isExtended) && b.name ≠ "test" && b.name ≠ "[" then setStatus 1
    else setStatus 2
  | some stop => throw stop

def commandOptions (args : List Text) : ShellM (Option (Option Char × List Text)) := fun s ↦
  match readLetters ['p', 'v', 'V'] [] args { s with command := "command".toList } with
  | (.ok (letters, args), s') =>
    let choice := (letters.filter (·.1 ≠ 'p')).getLast?.map Prod.fst
    (.ok (some (choice, args)), { s' with command := s.command })
  | (.error _, s') => (.ok none, { s' with command := s.command })

/-- Becomes a program as the shell itself, whose redirections stay. -/
def execute (become : Caller → List Text → ShellM Unit) (settings : List Setting) (rs : List Redirect)
    (args : List Text) : ShellM Unit := do
  let errors ← errorsOpen
  redirectForGood (← rs.mapM (expandRedirect e))
  let done ← carryOutAll e settings
  trace errors done ("exec".toList :: args)
  let args := if args.head? = some ['-', '-'] then args.drop 1 else args
  match args with
  | [] => setStatus 0
  | args =>
    done.forM fun (name, value) ↦ exportVariable name value
    modify fun s ↦ { s with command := "exec".toList }
    match ← findProgram (args.headD []) with
    | none =>
      complain (args.headD [] ++ ": not found".toList)
      setStatus 127
      throw .exit
    | some path =>
      match (← get).context.find path with
      | .error _ =>
        complain (path ++ ": not found".toList)
        setStatus 127
        throw .exit
      | .ok _ => become .shell args

def dispatch (become : Caller → List Text → ShellM Unit) (manner : Manner) : Nat → Bool → List Text →
    ShellM Unit
  | 0, _, _ => throw .stuck
  | _, _, [] => setStatus 0
  | fuel + 1, direct, name :: args => do
    if name = "command".toList then
      match ← commandOptions args with
      | none => setStatus 2
      | some (none, args) => dispatch become manner fuel true args
      | some (some 'v', names) =>
        let ok ← match names with
          | [] => pure true
          | n :: _ => Builtin.whereabouts builtinNames n
        settle ok
      | some (some _, names) =>
        let ok ← match names with
          | [] => pure true
          | n :: _ => Builtin.describe builtinNames n
        settle ok
    else if name = "exec".toList then execute e become [] [] args
    else
      match ← builtin? name, (← get).functions.find? (·.1 = name) with
      | some b, none => runBuiltin e b (b.special && !direct) args
      | some b, some (_, body) =>
        if (b.special && !(← isExtended)) || direct then
          runBuiltin e b (b.special && !direct) args
        else callFunction e manner body args
      | none, some (_, body) =>
        if direct then runProgram e become manner (name :: args) else callFunction e manner body args
      | none, none => runProgram e become manner (name :: args)
where
  settle (found : Bool) : ShellM Unit := do
    let missing := if ← isExtended then 1 else 127
    setStatus (if found then 0 else missing)

def restoreVariables (old : List (Text × Option Variable)) : ShellM Unit :=
  modify fun s ↦ old.foldl (fun s (name, v) ↦
    match v with
    | some v => s.putVariable v
    | none => s.removeVariable name) s

def runSimple (become : Caller → List Text → ShellM Unit) (manner : Manner) (line : Nat)
    (settings : List Setting) (words : List Word) (rs : List Redirect) : ShellM Unit := do
  modify fun s ↦ { s with line, outputStatus := none }
  spend
  let errors ← errorsOpen
  let args ← expandArguments e words
  match args with
  | [] =>
    redirected e rs false do
      let done ← carryOutAll e settings
      if !done.isEmpty then trace errors done []
      let s ← get
      set { s with status := s.outputStatus.getD 0 }
  | name :: rest =>
    if name = "exec".toList then execute e become settings rs rest
    else
      let b ← builtin? name
      let function : Bool := (← get).functions.any (·.1 = name)
      let special := (b.map Builtin.special).getD false && !(← isExtended)
      redirected e rs special do
        let stays := special
        let names := settings.map settingName
        let old := names.map fun n ↦ (n, (none : Option Variable))
        let s ← get
        let old := old.map fun p ↦ (p.1, s.find? p.1)
        let done ← carryOutAll e settings
        if !stays && (b.isNone || function) then
          names.forM fun n ↦ Builtin.changeVariable n fun v ↦ { v with exported := true }
        trace errors done args
        let run := dispatch e become manner (args.length + 2) false args
        if stays || settings.isEmpty then run
        else finally_ run (restoreVariables old)
  answerSignals e
  checkFailure manner

def afterRound (stop : Option Stop) : ShellM Bool := do
  match stop with
  | none => return false
  | some (.leaveLoops n) =>
    if n ≤ 1 then return true else throw (.leaveLoops (n - 1))
  | some (.nextRound n) =>
    if n ≤ 1 then return false else throw (.nextRound (n - 1))
  | some stop => throw stop

def inLoop {α : Type} (body : ShellM α) : ShellM α := do
  modify fun s ↦ { s with loops := s.loops + 1 }
  finally_ body (modify fun s ↦ { s with loops := s.loops - 1 })

def loopWhile (condition : ShellM Bool) (body after : ShellM Unit) : ShellM Unit := do
  let last ← inLoop (untilDone 0 fun last ↦ do
    spend
    match ← attemptBool condition with
    | .ok true =>
      let finished ← afterRound (← attempt body)
      if !finished then after
      return ((← get).status, finished)
    | .ok false => return (last, true)
    | .error stop => return (last, ← afterRound (some stop)))
  setStatus last
where
  attemptBool (m : ShellM Bool) : ShellM (Except Stop Bool) := fun s ↦
    match m s with
    | (.ok b, s) => (.ok (.ok b), s)
    | (.error e, s) => (.ok (.error e), s)

def loopEach (name : Text) (body : ShellM Unit) : List Text → State → Except Stop Unit × State
  | [], s => (.ok (), s)
  | value :: values, s =>
    match (do setVariable name value; afterRound (← attempt body) : ShellM Bool) s with
    | (.error e, s) => (.error e, s)
    | (.ok true, s) => (.ok (), s)
    | (.ok false, s) => loopEach name body values s

/-- Runs the stages of a pipeline, each with the output of the one before as its input. All start
at the same time; the shell goes on when the last of them has ended. -/
def runStages (manner : Manner) : List Command → Option Nat → ShellM (List Job)
  | [], _ => return []
  | c :: cs, input => do
    let (next, inlet) ← if cs.isEmpty then pure (none, none) else do
      let (outlet, inlet) ← connect
      pure (some outlet, some inlet)
    let job ← fork e false do
      if let some n := input then system (ProcessM.setDescriptor 0 (some n))
      if let some n := inlet then system (ProcessM.setDescriptor 1 (some n))
      e.run { manner with last := true } c
    return job :: (← runStages manner cs next)

def runPipeline (manner : Manner) (stages : List Command) : ShellM Unit := do
  let jobs ← runStages e manner stages none
  let mut last : Nat := 0
  let mut worst : Nat := 0
  for job in jobs do
    match job.ending with
    | none => if job.process = (jobs.getLast?.map Job.process).getD 0 then
        let _ ← await none
    | some _ =>
      let status ← await job.ending
      last := status.number
      if status.number ≠ 0 then worst := status.number
  setStatus (if ← hasFlag 'P' then worst else last)

def evaluateCondition : Condition → ShellM Bool
  | .both a b => do if ← evaluateCondition a then evaluateCondition b else return false
  | .either a b => do if ← evaluateCondition a then return true else evaluateCondition b
  | .negated a => return !(← evaluateCondition a)
  | .unary o w => do
    let t ← expandText e false w
    if o = ['-', 'v'] then return (← single? t).isSome
    else
      match Conditions.applyUnary true (← get).context o t with
      | .ok b => return b
      | .error message => failWith message
  | .binary o a b => do
    let t ← expandText e false a
    let is (s : String) : Bool := o = s.toList
    if is "=" || is "==" then return Pattern.fits (Pattern.ofGlyphs (← expandGlyphs e b)) t
    else if is "!=" then return !Pattern.fits (Pattern.ofGlyphs (← expandGlyphs e b)) t
    else
      let u ← expandText e false b
      let number (v : Text) : ShellM Text := return writeInteger (← computeText v)
      if o.head? = some '-' && !(is "-nt" || is "-ot" || is "-ef") then
        match Conditions.applyBinary true (← get).context o (← number t) (← number u) with
        | .ok b => return b
        | .error message => failWith message
      else
        match Conditions.applyBinary true (← get).context o t u with
        | .ok b => return b
        | .error message => failWith message

def chooseArm (t : Text) : List Arm → ShellM (List Command)
  | [] => return []
  | .mk patterns body follows :: arms => do
    let fits ← patterns.anyM fun w ↦ do
      return Pattern.fits (Pattern.ofGlyphs (← expandGlyphs e w)) t
    if fits then
      if follows then return body :: following arms else return [body]
    else chooseArm t arms
where
  following : List Arm → List Command
    | [] => []
    | .mk _ body follows :: arms => body :: if follows then following arms else []

def runSequence (manner : Manner) : List Command → ShellM Unit
  | [] => return
  | [c] => e.run manner c
  | c :: cs => do
    e.run manner.inside c
    runSequence manner cs

/-- Runs a command as a process of its own, whose redirections stay. The last thing that a shell does
needs no other process. -/
def runSubshell (manner : Manner) (targets : List Target) (c : Command) : ShellM Unit := do
  spend
  let body : ShellM Unit := do
    redirectForGood targets
    e.run { manner with last := true } c
  if manner.last && !(← hasTraps) then body
  else
    let job ← fork e false body
    let status ← await job.ending
    setStatus status.number
    answerSignals e
    checkFailure manner

def runCommand (become : Caller → List Text → ShellM Unit) (manner : Manner) : Command → ShellM Unit
  | .simple line settings words rs => runSimple e become manner line settings words rs
  | .sequence cs => do
    if cs.isEmpty then setStatus 0
    runSequence e manner cs
  | .both a b => do
    e.run .asked a
    if (← get).status = 0 then e.run manner b
  | .either a b => do
    e.run .asked a
    if (← get).status ≠ 0 then e.run manner b
  | .negated c => do
    e.run .asked c
    answer ((← get).status ≠ 0)
  | .pipeline stages => do
    spend
    runPipeline e manner stages
    answerSignals e
    checkFailure manner
  | .background c => do
    spend
    let job ← forkBeside e c
    modify fun s ↦ { s with jobs := job :: s.jobs, lastJob := some job.process, status := 0 }
  | .subshell c => runSubshell e manner [] c
  | .redirected line (.subshell c) rs => do
    modify fun s ↦ { s with line }
    runSubshell e manner (← rs.mapM (expandRedirect e)) c
  | .redirected line c rs => do
    modify fun s ↦ { s with line }
    redirected e rs false (e.run manner.inside c)
    checkFailure manner
  | .branch condition yes no => do
    e.run .asked condition
    if (← get).status = 0 then e.run manner yes
    else e.run manner no
  | .loop whileFails condition body =>
    loopWhile (do e.run .asked condition; return ((← get).status = 0) != whileFails)
      (e.run manner.inside body) (pure ())
  | .count start condition next body => do
    let value (w : Word) (empty : Int) : ShellM Int := do
      let t ← expandText e false w
      if t.all isSpace then return empty else computeText t
    let _ ← value start 0
    loopWhile (return (← value condition 1) ≠ 0) (e.run manner.inside body)
      (do let _ ← value next 0)
  | .each line name words body => do
    modify fun s ↦ { s with line }
    let values ← match words with
      | none => pure (← get).args
      | some ws => expandWords e ws
    if values.isEmpty then setStatus 0
    inLoop (loopEach name (do spend; e.run manner.inside body) values)
  | .choice line w arms => do
    modify fun s ↦ { s with line }
    let t ← expandText e false w
    let bodies ← chooseArm e t arms
    if bodies.isEmpty then setStatus 0
    runSequence e manner bodies
  | .function name body => do
    modify fun s ↦
      { s with functions := (name, body) :: s.functions.filter (·.1 ≠ name), status := 0 }
  | .condition line c => do
    modify fun s ↦ { s with line }
    spend
    answer (← evaluateCondition e c)
    checkFailure manner
  | .arithmetic line expression => do
    modify fun s ↦ { s with line }
    spend
    answer ((← computeText (← expandText e false expression)) ≠ 0)
    checkFailure manner

end ShellM

structure Machinery where
  engine : Engine
  become : ShellM.Caller → List Text → ShellM Unit

def Machinery.broken : Machinery where
  engine := { run := fun _ _ ↦ throw (.killed Signal.segmentation) }
  become _ _ := throw (.killed Signal.segmentation)

def Machinery.next (m : Machinery) : Machinery where
  engine := { run := fun manner c ↦ ShellM.runCommand m.engine m.become manner c }
  become := ShellM.becomeProgram m.become m.engine

def nestingLimit : Nat := 3000

def machinery : Nat → Machinery
  | 0 => .broken
  | n + 1 => (machinery n).next

end PpiDump.Shell
