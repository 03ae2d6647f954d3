import PpiDump.Shell.Command

namespace PpiDump.Shell

structure Announced where
  number : Nat
  stop : Text
  expands : Bool
  skipsTabs : Bool

inductive Operator where
  | semicolon | ampersand | and | or | pipe | pipeBoth | opening | closing | armEnd | armFollow
  deriving DecidableEq, Repr

inductive Token where
  | word (w : Word)
  | redirect (descriptor : Nat) (mode : RedirectMode)
  | operator (o : Operator)
  | newline
  | ending

/-- Which of the two shells reads and runs a script: the plain one, or the one with extensions. -/
inductive Dialect where
  | plain | extended
  deriving DecidableEq, Repr

structure Reading where
  rest : Text
  line : Nat := 1
  dialect : Dialect := .plain
  aliases : List (Text × Text) := []
  guards : List (Text × Nat) := []
  /-- The length of what follows the text of an alias that ends in a blank: the word there may be an
  alias too. -/
  aliasEnd : Option Nat := none
  announced : List Announced := []
  inputs : List (Nat × Word) := []
  nextInput : Nat := 0
  held : Option Token := none

structure SyntaxError where
  line : Nat
  message : Text

abbrev Reader := StateT Reading (Except SyntaxError)

namespace Reader

def fail {α : Type} (message : Text) : Reader α := do throw ⟨(← get).line, message⟩

def isExtended : Reader Bool := return (← get).dialect = .extended

def drop (n : Nat) : Reader Unit :=
  modify fun s ↦
    { s with rest := s.rest.drop n, line := s.line + (s.rest.take n).count '\n' }

def dropJoins : Nat → Text → Text × Nat
  | n, '\\' :: '\n' :: rest => dropJoins (n + 1) rest
  | n, rest => (rest, n)

def peek : Reader (Option Char) := do
  let s ← get
  let (rest, n) := dropJoins 0 s.rest
  set { s with rest, line := s.line + n }
  return rest.head?

def peekText : Reader Text := return (← get).rest

def takeWhile (p : Char → Bool) : Reader Text := do
  let t := (← get).rest.takeWhile p
  drop t.length
  return t

end Reader

namespace Token

def operatorText : Operator → String
  | .semicolon => ";"
  | .ampersand => "&"
  | .and => "&&"
  | .or => "||"
  | .pipe => "|"
  | .pipeBoth => "|&"
  | .opening => "("
  | .closing => ")"
  | .armEnd => ";;"
  | .armFollow => ";&"

def reserved : List String :=
  ["!", "case", "do", "done", "elif", "else", "esac", "fi", "for", "if", "in", "then", "until",
    "while", "\x7b", "\x7d"]

def reservedMore : List String := ["function", "[[", "select", "time"]

def isReserved (t : Token) (s : String) : Bool :=
  match t with
  | .word w => w.isPlain s
  | _ => false

def describe (command : Bool) : Token → Text
  | .word w =>
    match w.plain? with
    | some t =>
      if command && reserved.any (·.toList = t) then '"' :: t ++ ['"'] else "word".toList
    | none => "word".toList
  | .redirect .. => "redirection".toList
  | .operator o => '"' :: (operatorText o).toList ++ ['"']
  | .newline => "newline".toList
  | .ending => "end of file".toList

def endsList (t : Token) : Bool :=
  match t with
  | .operator .closing | .operator .armEnd | .operator .armFollow | .ending => true
  | t => ["then", "do", "done", "fi", "else", "elif", "esac", "\x7d"].any t.isReserved

end Token

end PpiDump.Shell
