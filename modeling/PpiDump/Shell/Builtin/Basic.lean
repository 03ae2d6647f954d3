import PpiDump.Shell.Redirection

namespace PpiDump.Shell

structure Builtin where
  name : String
  special : Bool := false
  setting : Bool := false
  run : Engine → List Text → ShellM Unit

namespace ShellM

def readCount (t : Text) : ShellM Nat := do
  if isNumeral t then return Text.ofDigits t
  else failWith ("Illegal number: ".toList ++ t)

def singleQuoted (t : Text) : Text := '\'' :: go t ++ ['\'']
where
  go : Text → Text
    | [] => []
    | '\'' :: rest => "'\"'\"'".toList ++ go rest
    | c :: rest => c :: go rest

def readLetters (known valued : List Char) : List Text → ShellM (List (Char × Text) × List Text)
  | [] => return ([], [])
  | arg :: args =>
    match arg with
    | ['-', '-'] => return ([], args)
    | '-' :: c :: cs => do
      let rec letters : Text → ShellM (List (Char × Text) × Option Char)
        | [] => return ([], none)
        | c :: cs => do
          if valued.contains c then
            if cs.isEmpty then return ([], some c) else return ([(c, cs)], none)
          else if known.contains c then
            let (ls, open_) ← letters cs
            return ((c, []) :: ls, open_)
          else failWith ("Illegal option -".toList ++ [c])
      let (ls, wanting) ← letters (c :: cs)
      match wanting, args with
      | none, args =>
        let (more, rest) ← readLetters known valued args
        return (ls ++ more, rest)
      | some c, value :: args =>
        let (more, rest) ← readLetters known valued args
        return (ls ++ (c, value) :: more, rest)
      | some c, [] => failWith ("No arg for -".toList ++ c :: " option".toList)
    | _ => return ([], arg :: args)

def splitSetting (arg : Text) : Text × Option Text :=
  let name := arg.takeWhile (· ≠ '=')
  match arg.drop name.length with
  | _ :: value => (name, some value)
  | [] => (name, none)

def checkName (name : Text) : ShellM Unit := do
  if !isName name then failWith (name ++ ": bad variable name".toList)

def programIn (c : Context) (path name : Text) : Option Text :=
  if name.contains '/' then some name
  else
    (Text.splitOn ':' path).findSome? fun dir ↦
      let p := (if dir.isEmpty then ['.'] else dir) ++ '/' :: name
      match c.find p with
      | .ok (.file f) => if f.executable then some p else none
      | _ => none

def findProgram (name : Text) : ShellM (Option Text) := do
  let s ← get
  return programIn s.context ((s.setting? "PATH".toList).getD []) name

def listPlace (places : Nat) (name : Text) : Nat :=
  (name.foldl (fun n c ↦ n + c.toNat) (((name.head?.map Char.toNat).getD 0) * 16)) % places

def remember (name : Text) : ShellM Unit :=
  modify fun s ↦ if s.known.contains name then s else { s with known := s.known ++ [name] }

end ShellM

end PpiDump.Shell
