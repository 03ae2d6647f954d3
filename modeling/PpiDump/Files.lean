import PpiDump.History
import PpiDump.Text.Lines
import PpiDump.Text.Utf8

namespace PpiDump

abbrev Path := List Text

structure File where
  content : Bytes
  executable : Bool := false
  deriving DecidableEq, Repr

inductive Device where
  | null
  | zeros
  | full
  deriving DecidableEq, Repr

inductive Entry where
  | file (f : File)
  | directory
  | device (d : Device)
  | descriptor (n : Nat)
  deriving DecidableEq, Repr

inductive FileFailure where
  | missing | notDirectory | isDirectory | present | notEmpty | longName | noSpace | badDescriptor
  | notPermitted | noDevice
  deriving DecidableEq, Repr

def FileFailure.message : FileFailure → Text
  | missing => "No such file or directory".toList
  | notDirectory => "Not a directory".toList
  | isDirectory => "Is a directory".toList
  | present => "File exists".toList
  | notEmpty => "Directory not empty".toList
  | longName => "File name too long".toList
  | noSpace => "No space left on device".toList
  | badDescriptor => "Bad file descriptor".toList
  | notPermitted => "Permission denied".toList
  | noDevice => "No such device or address".toList

namespace Path

def ofString (s : String) : Path := (Text.splitOn '/' s.toList).filter (!·.isEmpty)

def text (p : Path) : Text := if p.isEmpty then ['/'] else p.flatMap ('/' :: ·)

def links : List (Path × Path) :=
  [("bin", "usr/bin"), ("sbin", "usr/sbin"), ("lib", "usr/lib"), ("dev/fd", "proc/self/fd"),
    ("var/run", "run")].map fun l ↦ (ofString l.1, ofString l.2)

def enter (p : Path) (name : Text) : Path :=
  let q := p ++ [name]
  ((links.find? fun l ↦ l.1 = q).map Prod.snd).getD q

def isName (name : Text) : Bool := (Utf8.encode name).length ≤ 255

def isWritten (t : Text) : Bool :=
  !t.isEmpty && !t.contains '\x00' && (Utf8.encode t).length < 4096

end Path

namespace SystemFiles

def directories : List Path :=
  ["", "boot", "dev", "etc", "home", "media", "mnt", "opt", "proc", "proc/self", "proc/self/fd",
    "root", "run", "srv", "sys", "tmp", "usr", "usr/bin", "usr/lib", "usr/local", "usr/local/bin",
    "usr/local/sbin", "usr/sbin", "usr/share", "var", "var/lib", "var/log", "var/tmp"].map
    Path.ofString

def programs : List Text :=
  ["[", "arch", "awk", "b2sum", "base32", "base64", "basename", "basenc", "bash", "bunzip2",
    "bzcat", "bzip2", "cat", "chcon", "chgrp", "chmod", "chown", "cksum", "clear", "cmp", "comm",
    "cp", "csplit", "cut", "dash", "date", "dd", "df", "diff", "diff3", "dir", "dircolors",
    "dirname", "du", "echo", "egrep", "env", "expand", "expr", "factor", "false", "fgrep", "find",
    "findmnt", "flock", "fmt", "fold", "free", "getconf", "getent", "getopt", "grep", "groups",
    "gunzip", "gzip", "head", "hostid", "iconv", "id", "install", "ionice", "join", "kill", "link",
    "ln", "locale", "logger", "logname", "ls", "mawk", "mcookie", "md5sum", "mkdir", "mkfifo",
    "mknod", "mktemp", "mount", "mountpoint", "mv", "nawk", "nice", "nl", "nohup", "nproc",
    "nsenter", "numfmt", "od", "paste", "pathchk", "pgrep", "pidof", "pinky", "pkill", "pr",
    "printenv", "printf", "prlimit", "ps", "ptx", "pwd", "rbash", "readlink", "realpath", "renice",
    "rev", "rgrep", "rm", "rmdir", "run-parts", "runcon", "script", "sdiff", "sed", "seq",
    "setpriv", "setsid", "sh", "sha1sum", "sha224sum", "sha256sum", "sha384sum", "sha512sum",
    "shred", "shuf", "sleep", "sort", "split", "stat", "stdbuf", "stty", "sum", "sync", "tac",
    "tail", "tar", "taskset", "tee", "test", "timeout", "touch", "tr", "true", "truncate", "tsort",
    "tty", "umount", "uname", "unexpand", "uniq", "unlink", "unshare", "uptime", "users", "vdir",
    "vmstat", "w", "wall", "wc", "whereis", "which", "who", "whoami", "xargs", "yes", "zcat",
    "zcmp", "zdiff", "zegrep", "zfgrep", "zgrep"].map String.toList

def devices : List (Path × Entry) :=
  [("dev/null", .device .null), ("dev/zero", .device .zeros), ("dev/full", .device .full),
    ("dev/random", .device .zeros), ("dev/urandom", .device .zeros), ("dev/stdin", .descriptor 0),
    ("dev/stdout", .descriptor 1), ("dev/stderr", .descriptor 2)].map
    fun d ↦ (Path.ofString d.1, d.2)

def users : Bytes :=
  Utf8.encode ("root:x:0:0:root:/root:/bin/bash\n" ++
    "daemon:x:1:1:daemon:/usr/sbin:/usr/sbin/nologin\n").toList

def descriptorOf? (name : Text) : Option Nat :=
  if !name.isEmpty && name.all Char.isDigit then some (Text.ofDigits name) else none

def entry? (path : Path) : Option Entry :=
  if directories.contains path then some .directory
  else
    match path.reverse with
    | name :: above =>
      if above.reverse = Path.ofString "usr/bin" then
        if programs.contains name then some (.file ⟨[], true⟩) else none
      else if above.reverse = Path.ofString "proc/self/fd" then
        (descriptorOf? name).map .descriptor
      else if path = Path.ofString "etc/passwd" then some (.file ⟨users, false⟩)
      else (devices.find? fun d ↦ d.1 = path).map Prod.snd
    | [] => none

end SystemFiles

/-- What there is after a change from `before` to `after` if it comes in front of one that led to
`later`. Text that either of them put at the end of a file stays; else the later change counts. -/
def Entry.merge (before after later : Option Entry) : Option Entry :=
  if later = before then after
  else
    match before, after, later with
    | some (.file old), some (.file new), some (.file f) =>
      if old.content.isPrefixOf new.content && old.content.isPrefixOf f.content then
        some (.file { f with content := new.content ++ f.content.drop old.content.length })
      else later
    | _, _, later => later

/-- The files of the user, over those of the system, seen from a standpoint. -/
structure Files where
  entries : List (Path × Entry) := []
  history : History Path (Option Entry) := {}
  standpoint : Standpoint := {}
  isWritable : Path → Bool := fun _ ↦ true

namespace Files

def home : Path := Path.ofString "home/dump"

def beforehand? (fs : Files) (path : Path) : Option Entry :=
  match fs.entries.find? fun e ↦ e.1 = path with
  | some e => some e.2
  | none => if path = home then some .directory else SystemFiles.entry? path

def entry? (fs : Files) (path : Path) : Option Entry :=
  match fs.history.latest? fs.standpoint path with
  | some e => e
  | none => fs.beforehand? path

def isDirectory (fs : Files) (path : Path) : Bool := fs.entry? path = some .directory

def follow (fs : Files) : Path → List Text → Except FileFailure Path
  | here, [] => .ok here
  | here, part :: parts =>
    match fs.entry? here with
    | some .directory =>
      if part.isEmpty || part = ['.'] then follow fs here parts
      else if part = ['.', '.'] then follow fs here.dropLast parts
      else if Path.isName part then follow fs (here.enter part) parts
      else .error .longName
    | some _ => .error .notDirectory
    | none => .error .missing

def locate (fs : Files) (here : Path) (t : Text) : Except FileFailure Path :=
  if t.isEmpty || t.contains '\x00' then .error .missing
  else if !Path.isWritten t then .error .longName
  else fs.follow (if t.head? = some '/' then [] else here) (Text.splitOn '/' t)

def find (fs : Files) (here : Path) (t : Text) : Except FileFailure Entry :=
  match fs.locate here t with
  | .ok path =>
    match fs.entry? path with
    | some e => .ok e
    | none => .error .missing
  | .error e => .error e

def change (fs : Files) (path : Path) (entry : Option Entry) : Files :=
  { fs with
    history := fs.history.set fs.standpoint path entry (Entry.merge (fs.entry? path) entry) }

def set (fs : Files) (path : Path) (e : Entry) : Files := fs.change path (some e)

def remove (fs : Files) (path : Path) : Files := fs.change path none

def present (fs : Files) : List (Path × Entry) :=
  let paths := fs.entries.map Prod.fst ++ fs.history.keys fs.standpoint
  paths.reverse.eraseDups.reverse.filterMap fun path ↦ (fs.entry? path).map (path, ·)

def content? (fs : Files) (path : Path) : Option Bytes :=
  match fs.entry? path with
  | some (.file f) => some f.content
  | _ => none

/-- Makes a file hold `content`, also a new one; an old one stays executable. -/
def write (fs : Files) (path : Path) (content : Bytes) : Files :=
  match fs.entry? path with
  | some (.file f) => fs.set path (.file { f with content })
  | _ => fs.set path (.file { content })

def names (fs : Files) (path : Path) : List Text :=
  let below := fs.present.filterMap fun e ↦
    match e.1.reverse with
    | name :: above => if above.reverse = path then some name else none
    | [] => none
  let standard :=
    if path = Path.ofString "usr/bin" then SystemFiles.programs
    else
      (SystemFiles.directories ++ (SystemFiles.devices.map Prod.fst) ++
          [Path.ofString "etc/passwd"]).filterMap fun p ↦
        match p.reverse with
        | name :: above => if above.reverse = path then some name else none
        | [] => none
  below ++ standard

def ofList (files : List (Text × File)) : Files :=
  { entries := files.map fun f ↦ (home.enter f.1, .file f.2) }

def toList (fs : Files) : List (Text × File) :=
  fs.present.filterMap fun e ↦
    match e.1.reverse, e.2 with
    | name :: above, .file f => if above.reverse = home then some (name, f) else none
    | _, _ => none

def read? (fs : Files) (t : Text) : Option Bytes :=
  match fs.find home t with
  | .ok (.file f) => some f.content
  | .ok (.device .null) | .ok (.descriptor 0) => some []
  | _ => none

end Files

end PpiDump
