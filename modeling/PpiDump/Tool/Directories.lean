import PpiDump.Tool.Names

namespace PpiDump

namespace Files

def below (fs : Files) (path : Path) : List (Path × Entry) :=
  fs.present.filter fun e ↦ path.isPrefixOf e.1

def removeAll (fs : Files) (path : Path) : Files :=
  (fs.below path).foldl (fun fs e ↦ fs.remove e.1) fs

def copyAll (fs : Files) (source target : Path) : Files :=
  (fs.below source).foldl (fun fs e ↦ fs.set (target ++ e.1.drop source.length) e.2) fs

end Files

namespace Tool

def failure (before : String) (path : Text) (e : FileFailure) : Text :=
  before.toList ++ shellQuoted path ++ ": ".toList ++ e.message

def entryAt (t : Text) : ProcessM (Except FileFailure (Path × Entry)) := do
  let c ← get
  match c.locate t with
  | .error e => return .error e
  | .ok p =>
    match c.files.entry? p with
    | some e => return .ok (p, e)
    | none => return .error .missing

def onOperands (name : String) (operands : List Text)
    (act : Text → ProcessM (Except Text Unit)) : ProcessM Nat := do
  let mut ok := true
  for t in operands do
    match ← act t with
    | .ok () => pure ()
    | .error message =>
      complain name message
      ok := false
  return status ok

def makeDirectory (parents verbose : Bool) (t : Text) : ProcessM (Except Text Unit) := do
  let told (p : Text) : ProcessM Unit :=
    if verbose then put ("mkdir: created directory ".toList ++ shellQuoted p ++ ['\n'])
    else pure ()
  let once (p : Text) (mayBeThere isLast : Bool) : ProcessM (Except Text Unit) := do
    let c ← get
    match c.locate p with
    | .error e => return .error (failure "cannot create directory " p e)
    | .ok path =>
      match c.files.entry? path with
      | some .directory =>
        if mayBeThere then return .ok ()
        else return .error (failure "cannot create directory " p .present)
      | some _ =>
        return .error (failure "cannot create directory " p
          (if isLast then .present else .notDirectory))
      | none =>
        if c.files.isDirectory path.dropLast then
          ProcessM.changeFiles (·.set path .directory)
          told p
          return .ok ()
        else return .error (failure "cannot create directory " p .missing)
  if !parents then once t false true
  else
    let steps := (Text.splitOn '/' t).foldl (fun (done, sofar) part ↦
      let next := if sofar.isEmpty && done.isEmpty then part else sofar ++ '/' :: part
      (next :: done, next)) (([] : List Text), ([] : Text))
    let steps := (steps.1.reverse.filter fun s ↦ !s.isEmpty && s.getLast? ≠ some '/')
    let mut result : Except Text Unit := .ok ()
    for s in steps do
      match result with
      | .ok () => result ← once s true (steps.getLast? = some s)
      | .error _ => pure ()
    return result

def mkdir : Tool :=
  withOptions "mkdir" {
      letters := "pv", valued := "m"
      long := [("parents", 'p'), ("verbose", 'v'), ("mode", 'm')] } 1 fun g ↦ do
    if g.operands.isEmpty then misuse "mkdir" "missing operand".toList 1
    else onOperands "mkdir" g.operands (makeDirectory (g.has 'p') (g.has 'v'))

def removeDirectory (verbose : Bool) (t : Text) : ProcessM (Except Text Unit) := do
  if verbose then put ("rmdir: removing directory, ".toList ++ shellQuoted t ++ ['\n'])
  match ← entryAt t with
  | .error e => return .error (failure "failed to remove " t e)
  | .ok (p, .directory) =>
    if !((← get).files.names p).isEmpty then
      return .error (failure "failed to remove " t .notEmpty)
    else
      ProcessM.changeFiles (·.remove p)
      return .ok ()
  | .ok _ => return .error (failure "failed to remove " t .notDirectory)

def rmdir : Tool :=
  withOptions "rmdir" {
      letters := "pv", long := [("parents", 'p'), ("verbose", 'v')] } 1 fun g ↦ do
    if g.operands.isEmpty then misuse "rmdir" "missing operand".toList 1
    else onOperands "rmdir" g.operands fun t ↦ do
      let chain := if g.has 'p' then
          (List.range (t.count '/' + 1)).map fun n ↦
            (directoryName · ) |> fun up ↦ (List.range n).foldl (fun p _ ↦ up p) t
        else [t]
      let mut result : Except Text Unit := .ok ()
      for p in chain do
        if result.toOption.isSome && p ≠ ['.'] && p ≠ ['/'] then
          result ← removeDirectory (g.has 'v') p
      return result

def removeOne (g : Given) (t : Text) : ProcessM (Except Text Unit) := do
  let recursive := g.has 'r' || g.has 'R'
  let told (kind : String) : ProcessM Unit :=
    if g.has 'v' then put ("removed ".toList ++ kind.toList ++ shellQuoted t ++ ['\n'])
    else pure ()
  let last := baseName t
  if recursive && (last = ['.'] || last = ['.', '.']) then
    return .error ("refusing to remove '.' or '..' directory: skipping ".toList ++ shellQuoted t)
  match ← entryAt t with
  | .error e =>
    if g.has 'f' && (e = .missing || e = .notDirectory) then return .ok ()
    else return .error (failure "cannot remove " t e)
  | .ok (p, .directory) =>
    if recursive then
      ProcessM.changeFiles (·.removeAll p)
      told "directory "
      return .ok ()
    else if g.has 'd' then
      if !((← get).files.names p).isEmpty then
        return .error (failure "cannot remove " t .notEmpty)
      else
        ProcessM.changeFiles (·.remove p)
        told "directory "
        return .ok ()
    else return .error (failure "cannot remove " t .isDirectory)
  | .ok (p, _) =>
    ProcessM.changeFiles (·.remove p)
    told ""
    return .ok ()

def rm : Tool :=
  withOptions "rm" {
      letters := "rRfidvI"
      long := [("recursive", 'r'), ("force", 'f'), ("dir", 'd'), ("verbose", 'v')] } 1 fun g ↦ do
    if g.operands.isEmpty && !g.has 'f' then misuse "rm" "missing operand".toList 1
    else onOperands "rm" g.operands (removeOne g)

/-- Where an operand is to go: into a directory under its own name, or to the target itself. -/
def destination (intoTarget : Bool) (target source : Text) : Text :=
  if intoTarget then
    (if target.getLast? = some '/' then target else target ++ ['/']) ++ baseName source
  else target

structure Transfer where
  name : String
  keeps : Bool
  recursive : Bool
  verbose : Bool
  keepsTarget : Bool

def Transfer.run (x : Transfer) (source target : Text) : ProcessM (Except Text Unit) := do
  let tell : ProcessM Unit :=
    if x.verbose then
      put ((if x.keeps then [] else "renamed ".toList) ++ shellQuoted source ++ " -> ".toList ++
        shellQuoted target ++ ['\n'])
    else pure ()
  match ← entryAt source with
  | .error e => return .error (failure "cannot stat " source e)
  | .ok (p, entry) =>
    if x.keeps && !x.recursive && entry = .directory then
      return .error ("-r not specified; omitting directory ".toList ++ shellQuoted source)
    else
      let c ← get
      let cannot (e : FileFailure) : Except Text Unit :=
        .error (if x.keeps then failure (if entry = .directory then "cannot create directory "
            else "cannot create regular file ") target e
          else "cannot move ".toList ++ shellQuoted source ++ " to ".toList ++ shellQuoted target ++
            ": ".toList ++ e.message)
      match c.locate target with
      | .error e => return cannot e
      | .ok q =>
        let there := c.files.entry? q
        if p = q then
          return .error (shellQuoted source ++ " and ".toList ++ shellQuoted target ++
            " are the same file".toList)
        else if there.isSome && x.keepsTarget then return .ok ()
        else if entry = .directory && there.any (· ≠ .directory) then
          return .error ("cannot overwrite non-directory ".toList ++ shellQuoted target ++
            " with directory ".toList ++ shellQuoted source)
        else if entry ≠ .directory && there = some .directory then
          return .error ("cannot overwrite directory ".toList ++ shellQuoted target ++
            " with non-directory".toList)
        else if !x.keeps && entry = .directory && p.isPrefixOf q then
          return .error ("cannot move ".toList ++ shellQuoted source ++
            " to a subdirectory of itself, ".toList ++ shellQuoted target)
        else if !c.files.isDirectory q.dropLast then return cannot .missing
        else
          match entry, there with
          | .file f, some (.file old) =>
            let content := f.content
            ProcessM.changeFiles fun fs ↦
              if x.keeps then fs.set q (.file { old with content })
              else (fs.remove p).set q entry
          | .file _, some (.device _) | .file _, some (.descriptor _) =>
            match ← ProcessM.openFile .write target with
            | .ok n =>
              let descriptors := (← get).process.descriptors
              ProcessM.setDescriptor 253 (some n)
              let _ ← ProcessM.put 253 ((c.files.content? p).getD []).toChars
              ProcessM.changeProcess fun pr ↦ { pr with descriptors }
            | .error _ => pure ()
          | .device _, _ | .descriptor _, _ =>
            let content := (← readFile source).toOption.getD []
            ProcessM.changeFiles (·.write q (Bytes.ofChars content))
          | _, _ =>
            ProcessM.changeFiles fun fs ↦
              let fs := (if there.isSome then fs else fs.set q entry).copyAll p q
              if x.keeps then fs else fs.removeAll p
          tell
          return .ok ()

def Transfer.runAll (x : Transfer) (g : Given) : ProcessM Nat := do
  let (sources, target?) := match g.value? 't' with
    | some t => (g.operands, some t)
    | none => (g.operands.dropLast, if g.operands.length < 2 then none else g.operands.getLast?)
  match g.operands, target? with
  | [], _ => misuse x.name "missing file operand".toList 1
  | t :: _, none =>
    misuse x.name ("missing destination file operand after ".toList ++ shellQuoted t) 1
  | _, some target =>
    let isDirectory : Bool := match ← entryAt target with
      | .ok (_, .directory) => true
      | _ => false
    let into : Bool := isDirectory && !g.has 'T'
    if (1 < sources.length || (g.value? 't').isSome) && !into then
      let e : FileFailure := match ← entryAt target with
        | .ok _ => .notDirectory
        | .error e => e
      complain x.name ((if (g.value? 't').isSome then "target directory " else "target ").toList ++
        shellQuoted target ++ ": ".toList ++ e.message)
      return 1
    else onOperands x.name sources fun s ↦ x.run s (destination into target s)

def mv : Tool :=
  withOptions "mv" {
      letters := "finuvT", valued := "t"
      long := [("force", 'f'), ("no-clobber", 'n'), ("verbose", 'v'), ("target-directory", 't'),
        ("no-target-directory", 'T')] } 1 fun g ↦
    Transfer.runAll ⟨"mv", false, true, g.has 'v', g.has 'n'⟩ g

def cp : Tool :=
  withOptions "cp" {
      letters := "aRrfinpuvTdPLlsx", valued := "t"
      long := [("archive", 'a'), ("recursive", 'r'), ("force", 'f'), ("no-clobber", 'n'),
        ("verbose", 'v'), ("target-directory", 't'), ("preserve", 'p')] } 1 fun g ↦
    Transfer.runAll ⟨"cp", true, g.has 'r' || g.has 'R' || g.has 'a', g.has 'v', g.has 'n'⟩ g

/-- A link is made as a second file of the same content. -/
def ln : Tool :=
  withOptions "ln" {
      letters := "sfnvrT", valued := "t"
      long := [("symbolic", 's'), ("force", 'f'), ("verbose", 'v')] } 1 fun g ↦ do
    match g.operands with
    | [] => misuse "ln" "missing file operand".toList 1
    | source :: rest =>
      let target := rest.getLast?.getD (baseName source)
      let isDirectory : Bool := match ← entryAt target with
        | .ok (_, .directory) => true
        | _ => false
      let sources := if rest.isEmpty then [source] else g.operands.dropLast
      onOperands "ln" sources fun s ↦ do
        let target := destination isDirectory target s
        let c ← get
        let kind := if g.has 's' then "failed to create symbolic link "
          else "failed to create hard link "
        match c.locate target with
        | .error e => return .error (failure kind target e)
        | .ok q =>
          if (c.files.entry? q).isSome && !g.has 'f' then
            return .error (failure kind target .present)
          else if !c.files.isDirectory q.dropLast then
            return .error (failure kind target .missing)
          else
            match ← entryAt s with
            | .error e =>
              if g.has 's' then return .ok () else return .error (failure "failed to access " s e)
            | .ok (p, entry) =>
              if entry = .directory then
                if g.has 's' then
                  ProcessM.changeFiles fun fs ↦ (fs.set q entry).copyAll p q
                  return .ok ()
                else
                  return .error (shellQuoted s ++ ": hard link not allowed for directory".toList)
              else
                ProcessM.changeFiles (·.set q entry)
                return .ok ()

def touch : Tool :=
  withOptions "touch" {
      letters := "acmfh", valued := "drt", long := [("no-create", 'c')] } 1 fun g ↦ do
    if g.operands.isEmpty then misuse "touch" "missing file operand".toList 1
    else onOperands "touch" g.operands fun t ↦ do
      let c ← get
      match c.locate t with
      | .error e =>
        if g.has 'c' && e = .missing then return .ok ()
        else return .error (failure "cannot touch " t e)
      | .ok p =>
        if (c.files.entry? p).isSome || g.has 'c' then return .ok ()
        else if c.files.isDirectory p.dropLast then
          ProcessM.changeFiles (·.write p [])
          return .ok ()
        else return .error (failure "cannot touch " t .missing)

def changeMode? (mode : Text) (executable : Bool) : Option Bool :=
  if !mode.isEmpty && mode.all fun c ↦ '0' ≤ c && c ≤ '7' then
    some (((mode.reverse.take 3)).any fun c ↦ c.toNat % 2 = 1)
  else
    (Text.splitOn ',' mode).foldlM (fun executable clause ↦
      let who := clause.takeWhile fun c ↦ "ugoa".toList.contains c
      match clause.drop who.length with
      | sign :: letters =>
        if !(sign = '+' || sign = '-' || sign = '=') ||
            !letters.all fun c ↦ "rwxXst".toList.contains c then none
        else
          let runs := letters.contains 'x' || (letters.contains 'X' && executable)
          some (if sign = '+' then executable || runs
            else if sign = '-' then executable && !runs
            else runs)
      | [] => none) executable

def chmod : Tool := fun args ↦ do
  let isOption (a : Text) : Bool := match a with
    | '-' :: c :: _ => !"rwxXst".toList.contains c
    | _ => false
  let operands := (args.filter fun a ↦ !isOption a)
  match operands with
  | [] => misuse "chmod" "missing operand".toList 1
  | [mode] => misuse "chmod" ("missing operand after ".toList ++ shellQuoted mode) 1
  | mode :: paths =>
    if (changeMode? mode true).isNone then
      misuse "chmod" ("invalid mode: ".toList ++ shellQuoted mode) 1
    else onOperands "chmod" paths fun t ↦ do
      match ← entryAt t with
      | .error e => return .error (failure "cannot access " t e)
      | .ok (p, .file f) =>
        let executable := (changeMode? mode f.executable).getD false
        ProcessM.changeFiles (·.set p (.file { f with executable }))
        return .ok ()
      | .ok _ => return .ok ()

def truncate : Tool :=
  withOptions "truncate" {
      letters := "co", valued := "sr", long := [("size", 's'), ("no-create", 'c')] } 1 fun g ↦ do
    match (g.value? 's') with
    | none => misuse "truncate" "you must specify either '--size' or '--reference'".toList 1
    | some written =>
      let sign := written.head?.filter fun c ↦ c = '+' || c = '-'
      let body := if sign.isSome then written.drop 1 else written
      let ds := body.takeWhile Char.isDigit
      if ds.isEmpty then
        complain "truncate" ("Invalid number: ".toList ++ shellQuoted written)
        return 1
      else
        let n := Text.ofDigits ds * (match body.drop ds.length with
          | ['K'] => 1024
          | ['M'] => 1024 * 1024
          | _ => 1)
        onOperands "truncate" g.operands fun t ↦ do
          let c ← get
          match c.locate t with
          | .error e => return .error (failure "cannot open " t e)
          | .ok p =>
            let old := (c.files.content? p).getD []
            let size := match sign with
              | some '+' => old.length + n
              | some '-' => old.length - n
              | _ => n
            ProcessM.changeFiles
              (·.write p (old.take size ++ List.replicate (size - old.length) 0))
            return .ok ()

def mktemp : Tool :=
  withOptions "mktemp" {
      letters := "duqt", valued := "p", long := [("directory", 'd'), ("dry-run", 'u')] } 1
      fun g ↦ do
    let c ← get
    let template := (g.operands.head?).getD "/tmp/tmp.XXXXXXXXXX".toList
    let marks := (template.reverse.takeWhile (· = 'X')).length
    if marks < 3 then
      complain "mktemp" ("too few X's in template ".toList ++ shellQuoted template)
      return 1
    else
      let ds := Text.ofNat (c.files.history.changes.length + 1000 * c.process.number)
      let name := template.take (template.length - marks) ++
        (List.replicate (marks - ds.length) 'a' ++ ds).take marks
      match c.locate name with
      | .error e =>
        complain "mktemp" (failure "failed to create file via template " template e)
        return 1
      | .ok p =>
        if !g.has 'u' then
          ProcessM.changeFiles (·.set p (if g.has 'd' then .directory else .file ⟨[], false⟩))
        put (name ++ ['\n'])
        return 0

def sortedNames (ns : List Text) : List Text := ns.mergeSort fun a b ↦ !(b < a)

def ls : Tool :=
  withOptions "ls" {
      letters := "1aAdrRFpClhtSUfGgonQqsixbmkLHNBcuZX", valued := "IwT"
      long := [("all", 'a'), ("almost-all", 'A'), ("directory", 'd'), ("reverse", 'r'),
        ("recursive", 'R'), ("classify", 'F')] } 2 fun g ↦ do
    let mut ok := true
    let mut files : List Text := []
    let mut directories : List (Text × Path) := []
    let order (ns : List Text) : List Text :=
      let sorted := sortedNames ns
      if g.has 'r' then sorted.reverse else sorted
    for t in order (if g.operands.isEmpty then [['.']] else g.operands) do
      match ← entryAt t with
      | .error e =>
        complain "ls" (failure "cannot access " t e)
        ok := false
      | .ok (p, .directory) =>
        if g.has 'd' then files := t :: files else directories := (t, p) :: directories
      | .ok _ => files := t :: files
    let fs := (← get).files
    let mark (p : Path) (name : Text) : Text :=
      match fs.entry? (p ++ [name]) with
      | some .directory => name ++ if g.has 'F' || g.has 'p' then ['/'] else []
      | some (.file f) => name ++ if g.has 'F' && f.executable then ['*'] else []
      | _ => name
    let content (p : Path) : List Text :=
      let ns := (fs.names p).map fun n ↦ Bytes.toChars (Utf8.encode n)
      let ns := ns.filter fun n ↦ g.has 'a' || g.has 'A' || n.head? ≠ some '.'
      (order (if g.has 'a' then ['.'] :: ['.', '.'] :: ns else ns)).map (mark p)
    let separate (ns : List Text) : List Text :=
      if g.has 'm' then if ns.isEmpty then [] else [Text.join ", ".toList ns] else ns
    putLines (separate files.reverse)
    let several := 1 < g.operands.length || g.has 'R'
    let mut isFirst := files.isEmpty
    for (t, p) in directories.reverse do
      let all := if g.has 'R' then
          let inner := (fs.below p).filterMap fun e ↦
            if e.2 = .directory && e.1 ≠ p then
              some (t ++ (e.1.drop p.length).flatMap fun n ↦ '/' :: Bytes.toChars (Utf8.encode n),
                e.1)
            else none
          (t, p) :: inner.mergeSort fun a b ↦ !(b.1 < a.1)
        else [(t, p)]
      for (t, p) in all do
        if several then put ((if isFirst then [] else ['\n']) ++ t ++ ":\n".toList)
        putLines (separate (content p))
        isFirst := false
    return if ok then 0 else 2

def fillIn (value : Char → Text) : Text → Text
  | '%' :: c :: rest => value c ++ fillIn value rest
  | c :: rest => c :: fillIn value rest
  | [] => []

def stat : Tool :=
  withOptions "stat" { letters := "Lft", valued := "c", long := [("format", 'c'), ("printf", 'c')] }
      1 fun g ↦ do
    if g.operands.isEmpty then misuse "stat" "missing operand".toList 1
    else onOperands "stat" g.operands fun t ↦ do
      match ← entryAt t with
      | .error e => return .error (failure "cannot statx " t e)
      | .ok (_, entry) =>
        let (size, kind, mode) := match entry with
          | .file f =>
            (f.content.length, if f.content.isEmpty then "regular empty file" else "regular file",
              if f.executable then "755" else "644")
          | .directory => (4096, "directory", "755")
          | _ => (0, "character special file", "666")
        let value (c : Char) : Text :=
          match c with
          | 's' => Text.ofNat size
          | 'n' => t
          | 'F' => kind.toList
          | 'a' => mode.toList
          | 'U' | 'G' => "root".toList
          | 'u' | 'g' => ['0']
          | '%' => ['%']
          | _ => ['?']
        put (fillIn value ((g.value? 'c').getD []) ++ ['\n'])
        return .ok ()

end Tool

end PpiDump
