import PpiDump.Tool.Basic

namespace PpiDump.Tool

def trimSlashes (t : Text) : Text := t.dropEndWhile (· = '/')

def baseName (t : Text) : Text :=
  let trimmed := trimSlashes t
  if trimmed.isEmpty then if t.isEmpty then [] else ['/']
  else (trimmed.reverse.takeWhile (· ≠ '/')).reverse

def directoryName (t : Text) : Text :=
  let trimmed := trimSlashes t
  if trimmed.isEmpty then if t.isEmpty then ['.'] else ['/']
  else if !trimmed.contains '/' then ['.']
  else
    let above := trimSlashes (trimmed.take (trimmed.length - (baseName trimmed).length))
    if above.isEmpty then ['/'] else above

def withoutEnding (ending t : Text) : Text :=
  if ending ≠ t && ending.isSuffixOf t then t.take (t.length - ending.length) else t

def basename : Tool :=
  withOptions "basename" {
      letters := "az", valued := "s", strict := true
      long := [("multiple", 'a'), ("suffix", 's'), ("zero", 'z')] } 1 fun g ↦ do
    let feed := if g.has 'z' then ['\x00'] else ['\n']
    match g.operands with
    | [] => misuse "basename" "missing operand".toList 1
    | paths =>
      if g.has 'a' || g.has 's' then
        put (paths.flatMap fun p ↦ withoutEnding ((g.value? 's').getD []) (baseName p) ++ feed)
        return 0
      else
        match paths with
        | path :: ending :: other :: _ =>
          let _ := (path, ending)
          misuse "basename" ("extra operand ".toList ++ shellQuoted other) 1
        | path :: ending :: [] =>
          put (withoutEnding ending (baseName path) ++ feed)
          return 0
        | path :: [] =>
          put (baseName path ++ feed)
          return 0
        | [] => return 1

def dirname : Tool :=
  withOptions "dirname" { letters := "z", strict := true, long := [("zero", 'z')] } 1 fun g ↦ do
    if g.operands.isEmpty then misuse "dirname" "missing operand".toList 1
    else
      put (g.operands.flatMap fun p ↦
        directoryName p ++ if g.has 'z' then ['\x00'] else ['\n'])
      return 0

def pathText (p : Path) : Text := Bytes.toChars (Utf8.encode p.text)

def workingDirectory : Tool :=
  withOptions "pwd" { letters := "LP" } 1 fun _ ↦ do
    put (pathText (← get).process.directory ++ ['\n'])
    return 0

def resolvePaths (name : String) (g : Given) (mayBeMissing silent : Bool) : ProcessM Nat := do
  let mut ok := true
  for path in g.operands do
    let c ← get
    match c.locate path with
    | .ok p =>
      let above := c.files.isDirectory p.dropLast
      if (c.files.entry? p).isSome || (mayBeMissing && above) || g.has 'm' then
        put (pathText p ++ if g.has 'n' then [] else ['\n'])
      else
        if !silent then complain name (plainly path .missing)
        ok := false
    | .error e =>
      if !silent then complain name (plainly path e)
      ok := false
  return status ok

def realpath : Tool :=
  withOptions "realpath" { letters := "emqsLPz" } 1 fun g ↦ do
    if g.operands.isEmpty then misuse "realpath" "missing operand".toList 1
    else resolvePaths "realpath" g (!g.has 'e') (g.has 'q')

/-- There are no links but those of the system, which are not told. -/
def readlink : Tool :=
  withOptions "readlink" {
      letters := "efmnqsvz", long := [("canonicalize", 'f'), ("no-newline", 'n')] } 1 fun g ↦ do
    if g.operands.isEmpty then misuse "readlink" "missing operand".toList 1
    else if g.has 'f' || g.has 'e' || g.has 'm' then
      resolvePaths "readlink" g (!g.has 'e') (!g.has 'v')
    else return 1

def which : Tool := fun args ↦ do
  let usage : ProcessM Nat := do
    put "Usage: /usr/bin/which [-as] args\n".toList
    return 2
  match args with
  | ('-' :: c :: _) :: _ => if c = 'a' || c = 's' || c = '-' then find (args.drop 1) else usage
  | args => find args
where
  find (names : List Text) : ProcessM Nat := do
    let mut ok := !names.isEmpty
    for name in names do
      let c ← get
      let candidates := if name.contains '/' then [name]
        else ["/usr/local/sbin/", "/usr/local/bin/", "/usr/sbin/", "/usr/bin/", "/sbin/",
          "/bin/"].map (·.toList ++ name)
      match candidates.find? fun p ↦ (c.find p).toOption.any fun e ↦
          match e with
          | .file f => f.executable
          | _ => false with
      | some p => put (p ++ ['\n'])
      | none => ok := false
    return status ok

def uname : Tool :=
  withOptions "uname" { letters := "asnrvmpio" } 1 fun g ↦ do
    put ((if g.has 'm' && g.options.length = 1 then "x86_64" else "Linux").toList ++ ['\n'])
    return 0

def constantly (t : String) : Tool := fun _ ↦ do
  put (t.toList ++ ['\n'])
  return 0

def identity : Tool :=
  withOptions "id" { letters := "ugGnrz" } 1 fun g ↦ do
    let name := if g.has 'n' then "root" else "0"
    put ((if g.options.isEmpty then "uid=0(root) gid=0(root) groups=0(root)" else name).toList ++
      ['\n'])
    return 0

def terminal : Tool :=
  withOptions "tty" { letters := "s", long := [("quiet", 's'), ("silent", 's')] } 2 fun g ↦ do
    if !g.has 's' then put "not a tty\n".toList
    return 1

end PpiDump.Tool
