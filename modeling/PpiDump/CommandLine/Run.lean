import PpiDump.CommandLine.Arguments
import PpiDump.Converter
import PpiDump.Tree.Export

namespace PpiDump

variable {m : Type → Type} [Monad m]

def Event.logLine (e : Event) : Text :=
  (if e.isWarning then "WARN ".toList else "INFO ".toList) ++ e.message

namespace Invocation

def orFail {α : Type} (e : Error) : Option α → ExceptT Error m α
  | some a => pure a
  | none => throw e

def ensure (ok : Bool) : ExceptT Error m Unit := if ok then pure () else throw .fileFailure

def accept {α : Type} : Except Error α → ExceptT Error m α
  | .ok a => pure a
  | .error e => throw e

def configured (host : Host m) (i : Invocation) : ExceptT Error m Options := do
  match i.config with
  | none => return {}
  | some path =>
    let bytes ← orFail .fileFailure (← host.readFile path)
    let text ← orFail .fileFailure (Utf8.decode? bytes)
    accept (Options.ofJson? text)

def adjust (i : Invocation) (o : Options) : Options := {
  quiet := o.quiet || i.quiet
  debugDump := i.dumpStruct.or o.debugDump
  timeoutSecs :=
    match i.timeout with
    | some 0 => none
    | some secs => some secs
    | none => o.timeoutSecs
  perl := i.perl.getD o.perl
  includeDirs := o.includeDirs ++ i.includeDirs }

def settle {α : Type} (host : Host m) (o : Outcome Unit α) :
    ExceptT Error m (Converter Unit × α) := do
  o.events.forM fun e ↦ host.log e.logLine
  return (o.converter, ← accept o.result)

def readDocument (host : Host m) (i : Invocation) (c : Converter Unit) :
    ExceptT Error m (Converter Unit) := do
  if i.fromDump then
    let bytes ← orFail .fileFailure (← host.readFile i.source)
    return (← settle host (c.readLines (Utf8.decode bytes).lines)).1
  else
    let read ← ExceptT.lift (c.readSource host (Utf8.encode i.source))
    return (← settle host read).1

def writeExport (host : Host m) (i : Invocation) (c : Converter Unit) : ExceptT Error m Unit := do
  match i.jsonTree, c.document? with
  | some path, some d =>
    let text ← accept d.tree.exportText
    ensure (← host.writeFile path (Utf8.encode text))
  | _, _ => return ()

def writeResult (host : Host m) (i : Invocation) (output : Text) : ExceptT Error m Unit := do
  match i.output with
  | some path => ensure (← host.writeFile path (Utf8.encode output))
  | none => host.print output

def perform (host : Host m) (i : Invocation) : ExceptT Error m Unit := do
  let options ← i.configured host
  let c ← i.readDocument host (.echo (i.adjust options))
  i.writeExport host c
  let converted ← ExceptT.lift (c.convert host)
  let (_, conversion) ← settle host converted
  i.writeResult host conversion.output

end Invocation

def versionText : Text := "ppi2php 0.1.0\n".toList

def usageText : Text :=
  ("Usage: ppi2php [OPTIONS] <SOURCE>\n\n" ++
    "  -o, --output <PATH>       write the result to a file\n" ++
    "  -q, --quiet               log warnings and errors only\n" ++
    "      --dump-struct <PATH>  write the outline of the tree to a file\n" ++
    "      --json-tree <PATH>    write the tree as JSON to a file\n" ++
    "      --timeout <SECONDS>   how long to wait for the dumper, 0 for any time\n" ++
    "      --perl <PATH>         the program that runs the dumper\n" ++
    "  -I, --include <PATH>      a directory for the dumper to search, any number of times\n" ++
    "  -c, --config <PATH>       a file with options as JSON\n" ++
    "      --from-dump           the source is a dump already\n" ++
    "  -h, --help                print this text\n" ++
    "  -V, --version             print the version\n").toList

/-- Runs the command with its arguments. The answer is 0 if all went well, 1 after an error, and 2
if the arguments are wrong. -/
def runCommand (host : Host m) (args : List Text) : m Nat := do
  match Arguments.read args with
  | .error .version => host.print versionText; return 0
  | .error .help => host.print usageText; return 0
  | .error .invalid => host.log "ERROR invalid arguments".toList; return 2
  | .ok i =>
    match ← (i.perform host).run with
    | .ok () => return 0
    | .error e => host.log ("ERROR ".toList ++ e.message); return 1

end PpiDump
