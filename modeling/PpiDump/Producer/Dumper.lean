import PpiDump.Host
import PpiDump.Options

namespace PpiDump

def dumpProgram : Text := "PpiDumper->new(PPI::Document->new($ARGV[0]))->print;".toList

structure Dumper where
  perl : Text := "perl".toList
  includeDirs : List Text := []
  limit : Option Nat := some 60000
  deriving DecidableEq, Repr

def Options.dumper (o : Options) : Dumper :=
  { perl := o.perl, includeDirs := o.includeDirs, limit := o.timeoutSecs.map (1000 * ·) }

namespace Dumper

def arguments (d : Dumper) (source : Bytes) : List Bytes :=
  d.includeDirs.flatMap (fun dir ↦ [Utf8.encode "-I".toList, Utf8.encode dir]) ++
    ["-MPPI".toList, "-MPpiDumper".toList, "-e".toList, dumpProgram].map Utf8.encode ++ [source]

/-- Whether a command can be passed on at all: no part of it holds a zero byte. -/
def isPassable (d : Dumper) (source : Bytes) : Bool :=
  (Utf8.encode d.perl :: d.arguments source).all fun part ↦ !part.contains 0

def shownProgram (d : Dumper) : Text :=
  if (Utf8.encode d.perl).contains 0 then "<string-with-nul>".toList else d.perl

def dump {m : Type → Type} [Monad m] (host : Host m) (d : Dumper) (source : Bytes) :
    m (Except Error Transcript) := do
  if d.isPassable source then
    match ← host.launch d.perl (d.arguments source) with
    | some r => return .ok (r.transcript d.limit)
    | none => return .error (.notStarted d.perl)
  else return .error (.notStarted d.shownProgram)

end Dumper

end PpiDump
