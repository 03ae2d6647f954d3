import PpiDump.Tool.Characters
import PpiDump.Tool.Directories
import PpiDump.Tool.Editing
import PpiDump.Tool.Lines
import PpiDump.Tool.Names
import PpiDump.Tool.Numbers
import PpiDump.Tool.Plain
import PpiDump.Tool.Search
import PpiDump.Tool.Sorting

namespace PpiDump.Tool

def plainTools : List (String × Tool) :=
  [("true", succeed), ("false", fail), ("echo", echo), ("printf", printf), ("test", test),
    ("[", bracket), ("sleep", sleep), ("sync", succeed)]

def textTools : List (String × Tool) :=
  [("cat", concatenate), ("tee", tee), ("yes", yes), ("head", head), ("tail", tail),
    ("tac", reverseLines), ("rev", mirrorLines), ("uniq", uniq), ("comm", comm), ("wc", wc),
    ("nl", numberLines), ("sort", sort), ("tr", translate), ("cut", cut), ("paste", paste),
    ("fold", fold), ("expand", expand), ("unexpand", unexpand), ("base64", base64), ("od", octalDump),
    ("grep", search []), ("egrep", search ['E']), ("fgrep", search ['F']), ("sed", editStream)]

def nameTools : List (String × Tool) :=
  [("basename", basename), ("dirname", dirname), ("pwd", workingDirectory),
    ("realpath", realpath), ("readlink", readlink), ("which", which), ("uname", uname),
    ("arch", constantly "x86_64"), ("whoami", constantly "root"), ("id", identity),
    ("tty", terminal)]

def numberTools : List (String × Tool) :=
  [("seq", sequence), ("expr", expression), ("factor", factor)]

def directoryTools : List (String × Tool) :=
  [("mkdir", mkdir), ("rmdir", rmdir), ("rm", rm), ("mv", mv), ("cp", cp), ("ln", ln),
    ("touch", touch), ("chmod", chmod), ("truncate", truncate), ("mktemp", mktemp), ("ls", ls),
    ("stat", stat)]

def table : List (Text × Tool) :=
  (plainTools ++ textTools ++ nameTools ++ numberTools ++ directoryTools).map fun t ↦ (t.1.toList, t.2)

def find? (name : Text) : Option Tool := (table.find? (·.1 = name)).map Prod.snd

end PpiDump.Tool
