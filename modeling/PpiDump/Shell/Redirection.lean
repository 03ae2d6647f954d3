import PpiDump.Shell.Expansion

namespace PpiDump.Shell.ShellM

structure Target where
  descriptor : Nat
  mode : RedirectMode
  text : Text

variable (e : Engine)

def expandRedirect : Redirect → ShellM Target
  | .mk descriptor mode w => do
    match mode with
    | .here n =>
      let w := (((← get).inputs.find? fun i ↦ i.1 = n).map Prod.snd).getD []
      return ⟨descriptor, mode, ← expandText e false w⟩
    | .duplicate =>
      let t ← expandText e false w
      let extended ← isExtended
      if t = ['-'] || (isNumeral t && (extended || t.length = 1)) then
        return ⟨descriptor, mode, t⟩
      else if extended then return ⟨descriptor, .together false, t⟩
      else
        modify fun s ↦ { s with line := s.lineRead }
        failWith "Syntax error: Bad fd number".toList
    | mode => return ⟨descriptor, mode, ← expandText e false w⟩

def openProblem (creates : Bool) (t : Text) (f : FileFailure) : ShellM Text := do
  if ← isExtended then return t ++ ": ".toList ++ f.message
  else
    let reason := match f with
      | .missing | .notDirectory =>
        (if creates then "Directory nonexistent" else "No such file").toList
      | f => f.message
    return (if creates then "cannot create " else "cannot open ").toList ++ t ++ ": ".toList ++
      reason

def follow (r : Target) : ShellM Bool := do
  let file (mode : ProcessM.Mode) (descriptors : List Nat) : ShellM Bool := do
    match ← system (ProcessM.openFile mode r.text) with
    | .ok n =>
      descriptors.forM fun d ↦ system (ProcessM.setDescriptor d (some n))
      return true
    | .error f =>
      complain (← openProblem (mode ≠ .read) r.text f)
      return false
  let input (t : Text) : ShellM Bool := do
    let (outlet, _) ← connect
    system do
      match (← get).machine.opens[outlet]? with
      | some { channel := .pipe n, .. } =>
        ProcessM.changeMachine (·.changePipe n fun p ↦ { p with unread := [(0, t)] })
      | _ => pure ()
      ProcessM.setDescriptor r.descriptor (some outlet)
    return true
  match r.mode with
  | .read => file .read [r.descriptor]
  | .write => file (if ← hasFlag 'C' then .create else .write) [r.descriptor]
  | .force => file .write [r.descriptor]
  | .append => file .append [r.descriptor]
  | .both => file .both [r.descriptor]
  | .together appends => file (if appends then .append else .write) [1, 2]
  | .here _ => input r.text
  | .line => input (r.text ++ ['\n'])
  | .duplicate =>
    if r.text = ['-'] then
      system (ProcessM.setDescriptor r.descriptor none)
      return true
    else
      match (← get).context.opened? (Text.ofDigits r.text) with
      | some (n, _) =>
        system (ProcessM.setDescriptor r.descriptor (some n))
        return true
      | none =>
        complain (r.text ++ ": Bad file descriptor".toList)
        return false

def followAll : List Target → ShellM Bool
  | [] => return true
  | r :: rs => do if ← follow r then followAll rs else return false

def lost (before now : List (Nat × Nat)) : List (Nat × Nat) :=
  before.filter fun d ↦ !(now.any fun d' ↦ d'.1 = d.1 && d'.2 = d.2)

/-- Runs a body with redirections. Where one is not possible, the body is not run; that ends the
shell if `strict` is set. -/
def redirected (rs : List Redirect) (strict : Bool) (body : ShellM Unit) : ShellM Unit := do
  if rs.isEmpty then body
  else
    let targets ← rs.mapM (expandRedirect e)
    let s ← get
    let before := s.context.process.descriptors
    let restore : ShellM Unit := modify fun s' ↦
      { s' with context.process.descriptors := before, saved := s.saved }
    if ← followAll targets then
      modify fun s' ↦
        { s' with saved := s.saved ++ lost before s'.context.process.descriptors }
      match ← attempt body with
      | none => restore
      | some (.replaced status) => throw (.replaced status)
      | some stop =>
        restore
        throw stop
    else
      restore
      setStatus (if ← isExtended then 1 else 2)
      if strict then throw .failed

def redirectForGood (targets : List Target) : ShellM Unit := do
  let before := (← get).context.process.descriptors
  if ← followAll targets then
    let now := (← get).context.process
    system (ProcessM.hold (lost before now.descriptors) (some now.clock))
  else
    setStatus (if ← isExtended then 1 else 2)
    throw .failed

end PpiDump.Shell.ShellM
