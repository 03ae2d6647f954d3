import PpiDump.CommandLine.Run
import PpiDump.World

namespace PpiDump

def readRealFile (path : Text) : IO (Option Bytes) := do
  try
    let content ← IO.FS.readBinFile (String.ofList path)
    return some content.toList
  catch _ => return none

def writeRealFile (path : Text) (content : Bytes) : IO Bool := do
  try
    IO.FS.writeBinFile (String.ofList path) ⟨content.toArray⟩
    return true
  catch _ => return false

def modelOf (paths : List Text) : IO World := do
  let mut files : Files := {}
  for path in paths do
    match files.locate Files.home path, ← readRealFile path with
    | .ok p, some content => files := files.set p (.file ⟨content, true⟩)
    | _, _ => pure ()
  return { files }

/-- Real files, but no real programs. A dumper is not started: it is followed in a `World` of the
files that it is called with, a surrogate that knows scripts and the usual tools only. -/
def realHost : Host IO where
  readFile := readRealFile
  writeFile := writeRealFile
  launch program args := do
    let w ← modelOf (program :: args.map Utf8.decode)
    return (w.launch program args).map Prod.fst
  release _ := return ()
  print t := do
    let out ← IO.getStdout
    out.putStr (String.ofList t)
    out.flush
  log t := IO.eprintln (String.ofList t)

end PpiDump

def main (args : List String) : IO UInt32 := do
  let code ← PpiDump.runCommand PpiDump.realHost (args.map String.toList)
  return UInt32.ofNat code
