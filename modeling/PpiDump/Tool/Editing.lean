import PpiDump.Tool.Basic
import PpiDump.Tool.Edit.Stream

namespace PpiDump.Tool

namespace Edit

def linesWithFeeds (feed : Char) (t : Text) : List Line :=
  let ls := Text.splitOn feed t
  ls.dropLast.map (·, true) ++ (ls.getLast?.toList.filter (!·.isEmpty)).map (·, false)

def usage (first : Option Text) : ProcessM Nat := do
  if let some message := first then complain "sed" message
  let _ ← ProcessM.put 2
    "Usage: sed [OPTION]... \x7bscript-only-if-no-other-script\x7d [input-file]...\n".toList
  return 1

def known : Known := {
  letters := "nErsuzi", valued := "efl"
  long := [("quiet", 'n'), ("silent", 'n'), ("expression", 'e'), ("file", 'f'),
    ("regexp-extended", 'E'), ("separate", 's'), ("unbuffered", 'u'), ("null-data", 'z'),
    ("in-place", 'i'), ("posix", 'u'), ("debug", 'u'), ("sandbox", 'u')] }

def splitInPlace (args : List Text) : List Text × Text :=
  args.foldr (fun a (done, ending) ↦
    match a with
    | '-' :: 'i' :: e => (['-', 'i'] :: done, if e.isEmpty then ending else e)
    | a =>
      match Text.after? "--in-place=".toList a with
      | some e => (['-', 'i'] :: done, e)
      | none => (a :: done, ending)) (([] : List Text), ([] : Text))

def scriptText (g : Given) : ProcessM (Except FileFailure Text) := do
  let mut parts : List Text := []
  for (c, value) in g.options do
    if c = 'e' then parts := value :: parts
    else if c = 'f' then
      match ← readFile value with
      | .ok t => parts := (if t.getLast? = some '\n' then t.dropLast else t) :: parts
      | .error e => return .error e
  return .ok (Text.join ['\n'] parts.reverse)

def filesRead (is : Array Instruction) : List Text :=
  is.toList.filterMap fun i ↦
    match i.action with
    | .readFile path => some path
    | _ => none

def filesWritten (is : Array Instruction) : List Text :=
  is.toList.filterMap fun i ↦
    match i.action with
    | .writeFile _ path => some path
    | .substitute s => s.file
    | _ => none

def missingLabel? (is : Array Instruction) : Option Text :=
  let labels := is.toList.filterMap fun i ↦
    match i.action with
    | .label name => some name
    | _ => none
  is.toList.findSome? fun i ↦
    match i.action with
    | .jump _ name => if name.isEmpty || labels.contains name then none else some name
    | _ => none

def writeFileAs (path t : Text) : ProcessM Unit := do
  match ← ProcessM.openFile .write path with
  | .ok n =>
    let descriptors := (← get).process.descriptors
    ProcessM.setDescriptor 253 (some n)
    let _ ← ProcessM.put 253 t
    ProcessM.changeProcess fun p ↦ { p with descriptors }
  | .error e => complain "sed" ("couldn't open file ".toList ++ path ++ ": ".toList ++ e.message)

def editFiles (g : Given) (ending : Text) (x : Settings) (paths : List Text) : ProcessM Nat := do
  let inPlace := g.has 'i'
  let mut ok := true
  let mut texts : List (Text × List Line) := []
  let mut end? : Option (Option Nat) := none
  for path in (if paths.isEmpty then [['-']] else paths) do
    let taken ← if path = ['-'] then ProcessM.takeAhead 0
      else do pure ((← readFile path).map (·, some 0))
    match taken with
    | .ok (t, closing) =>
      texts := (path, linesWithFeeds x.feed t) :: texts
      if path = ['-'] then end? := some closing
    | .error e =>
      complain "sed" (if e = .isDirectory then
          if inPlace then "couldn't edit ".toList ++ path ++ ": not a regular file".toList
          else "read error on ".toList ++ path ++ ": ".toList ++ e.message
        else "can't read ".toList ++ path ++ ": ".toList ++ e.message)
      ok := false
  let separate := inPlace || g.has 's'
  let runs := if separate then texts.reverse
    else [([], texts.reverse.flatMap Prod.snd)]
  let mut s : Stream := Stream.ofInput x.instructions []
  let mut code : Option Nat := none
  let mut written : List (Text × Text) := []
  let mut outputs : List Text := []
  for (path, input) in runs do
    if code.isNone then
      let (s', code') := Stream.run x { s with input }
      let kept := if inPlace then (s'.input.flatMap fun l ↦ l.1 ++ if l.2 then [x.feed] else [])
        else []
      code := code'
      if let some message := s'.fault then
        complain "sed" ("-e expression #1, char 0: ".toList ++ message)
      let output := s'.output.reverse.flatten
      if inPlace then
        if !ending.isEmpty then
          let old := (← readFile path).toOption.getD []
          writeFileAs (if ending.contains '*' then Text.substitute ['*'] path ending
            else path ++ ending) old
        writeFileAs path (output ++ kept)
      else outputs := output :: outputs
      written := s'.written ++ written
      s := { s' with output := [], written := [], lacking := !inPlace && s'.lacking }
  for path in (filesWritten x.instructions).eraseDups do
    if path ≠ "/dev/stdout".toList then
      writeFileAs path ((written.reverse.filter (·.1 = path)).flatMap Prod.snd)
  if code.isNone then
    if let some closing := end? then ProcessM.waitForEnd closing
  put outputs.reverse.flatten
  match code with
  | some n => return if n = 0 && !ok then 2 else n
  | none => return if ok then 0 else 2

end Edit

open Edit in
def editStream : Tool := fun args ↦ do
  let (args, ending) := splitInPlace args
  match readArguments known args with
  | .error message => usage (some message)
  | .ok g =>
    let given : Bool := g.has 'e' || g.has 'f'
    match given, g.operands with
    | false, [] => usage none
    | _, operands =>
      let text ← if given then scriptText g else pure (.ok (operands.headD []))
      match text with
      | .error e =>
        complain "sed" ("couldn't open file: ".toList ++ e.message)
        return 1
      | .ok text =>
        match Edit.read (g.has 'E' || g.has 'r') text with
        | .error f =>
          let place := if f.general then 0 else text.length - f.rest.length
          complain "sed" ("-e expression #1, char ".toList ++ Text.ofNat place ++ ": ".toList ++
            f.message)
          return 1
        | .ok is =>
          match missingLabel? is with
          | some name =>
            complain "sed" ("can't find label for jump to `".toList ++ name ++ ['\''])
            return 1
          | none =>
            let mut contents : List (Text × Text) := []
            for path in (filesRead is).eraseDups do
              if let .ok t ← readFile (if path = "/dev/stdin".toList then ['-'] else path) then
                contents := (path, t) :: contents
            editFiles g ending {
                instructions := is
                quiet := g.has 'n' || "#n\n".toList.isPrefixOf (text ++ ['\n'])
                feed := if g.has 'z' then '\x00' else '\n'
                contents } (if given then operands else operands.drop 1)

end PpiDump.Tool
