import PpiDump.Text.Basic

namespace PpiDump.Text

def escape (t : Text) : Text :=
  substitute ['\t'] ['\\', 't'] (substitute ['\n'] ['\\', 'n'] (substitute ['\\'] ['\\', '\\'] t))

/-- Undoes first the line feed escapes, then the tab escapes. A doubled backslash has no meaning
here. -/
def unescape (t : Text) : Text :=
  substitute ['\\', 't'] ['\t'] (substitute ['\\', 'n'] ['\n'] t)

/-- Stands for a doubled backslash while the other escapes are undone. -/
def backslashMark : Char := '\x01'

/-- A quoted comment without its quotes and escapes. Doubled backslashes are set aside first, the
ends of the text included: otherwise one before an `n` would be read as a line feed. -/
def unescapeComment (raw : Text) : Text :=
  substitute [backslashMark] ['\\']
    (unescape (inner (substitute ['\\', '\\'] [backslashMark] raw)))

end PpiDump.Text
