import PpiDump.Text.Basic

namespace PpiDump.Shell

inductive RedirectMode where
  | read | write | append | both
  | force
  | duplicate
  | here (text : Nat)
  | line
  | together (appends : Bool)
  deriving DecidableEq, Repr

inductive Letters where
  | first | all
  deriving DecidableEq, Repr

inductive Spot where
  | first | every | start | finish
  deriving DecidableEq, Repr

mutual

inductive Part where
  | text (quoted : Bool) (t : Text)
  | parameter (quoted : Bool) (name : Text) (use : Use)
  | arithmetic (quoted : Bool) (expression : List Part)
  | output (quoted : Bool) (commands : List Command)
  | choices (words : List (List Part))

/-- What is made of the value of a parameter. Where `empty` is set, an empty value counts as none. -/
inductive Use where
  | value
  | length
  | otherwise (empty : Bool) (w : List Part)
  | assigned (empty : Bool) (w : List Part)
  | required (empty : Bool) (w : List Part)
  | replaced (empty : Bool) (w : List Part)
  | trimmed (atEnd longest : Bool) (pattern : List Part)
  | changed (spot : Spot) (pattern new : List Part)
  | upper (letters : Letters)
  | lower (letters : Letters)
  | slice (start : List Part) (count : Option (List Part))
  | indirect
  | invalid

inductive Setting where
  | mk (name : Text) (index : Option (List Part)) (appends : Bool) (value : List Part)
    (elements : Option (List (List Part)))

inductive Redirect where
  | mk (descriptor : Nat) (mode : RedirectMode) (target : List Part)

inductive Command where
  | simple (line : Nat) (settings : List Setting) (words : List (List Part))
    (redirects : List Redirect)
  | sequence (cs : List Command)
  | both (first second : Command)
  | either (first second : Command)
  | negated (c : Command)
  | pipeline (stages : List Command)
  | background (c : Command)
  | subshell (c : Command)
  | redirected (line : Nat) (c : Command) (redirects : List Redirect)
  | branch (condition yes no : Command)
  | loop (whileFails : Bool) (condition body : Command)
  | each (line : Nat) (name : Text) (words : Option (List (List Part))) (body : Command)
  | count (start condition next : List Part) (body : Command)
  | choice (line : Nat) (w : List Part) (arms : List Arm)
  | function (name : Text) (body : Command)
  | condition (line : Nat) (t : Condition)
  | arithmetic (line : Nat) (expression : List Part)

inductive Arm where
  | mk (patterns : List (List Part)) (body : Command) (follows : Bool)

inductive Condition where
  | both (a b : Condition)
  | either (a b : Condition)
  | negated (a : Condition)
  | unary (operator : Text) (w : List Part)
  | binary (operator : Text) (a b : List Part)

end

/-- A command for a process of its own, which keeps its redirections. -/
def Command.apart : Command → Command
  | .redirected line (.subshell c) rs | .redirected line c rs => .redirected line (.subshell c) rs
  | c => c

abbrev Word := List Part

namespace Word

def plain? : Word → Option Text
  | [.text false t] => some t
  | _ => none

def isPlain (w : Word) (s : String) : Bool := w.plain? = some s.toList

end Word

def isBlank (c : Char) : Bool := c = ' ' || c = '\t'

def trimBlanks (t : Text) : Text := Text.dropEndWhile isBlank (t.dropWhile isBlank)

def isNameStart (c : Char) : Bool := c.isAlpha || c = '_'

def isNameChar (c : Char) : Bool := c.isAlphanum || c = '_'

def isName (t : Text) : Bool :=
  match t with
  | c :: cs => isNameStart c && cs.all isNameChar
  | [] => false

def isNumeral (t : Text) : Bool := !t.isEmpty && t.all Char.isDigit

end PpiDump.Shell
