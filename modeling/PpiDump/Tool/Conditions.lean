import PpiDump.Process.Basic
import PpiDump.Shell.Arithmetic

namespace PpiDump.Conditions

inductive Shape where
  | unary | binary | negation | and | or | opening | closing
  deriving DecidableEq, Repr

def unaryOperators : List Text :=
  ["-r", "-w", "-x", "-e", "-f", "-d", "-c", "-b", "-p", "-u", "-g", "-k", "-s", "-t", "-z", "-n",
    "-h", "-O", "-G", "-L", "-S"].map String.toList

def binaryOperators : List Text :=
  ["=", "!=", "<", ">", "-eq", "-ne", "-ge", "-gt", "-le", "-lt", "-nt", "-ot", "-ef"].map
    String.toList

def shape? (extended : Bool) (w : Text) : Option Shape :=
  if unaryOperators.contains w then some .unary
  else if binaryOperators.contains w || (extended && w = ['=', '=']) then some .binary
  else if w = ['!'] then some .negation
  else if w = ['-', 'a'] then some .and
  else if w = ['-', 'o'] then some .or
  else if w = ['('] then some .opening
  else if w = [')'] then some .closing
  else none

def asks (c : Context) (operator : Text) (path : Text) : Bool :=
  match c.find path with
  | .error _ => false
  | .ok entry =>
    match operator with
    | ['-', o] =>
      match entry with
      | .file f =>
        if o = 'x' then f.executable
        else if o = 's' then !f.content.isEmpty
        else "erwfOG".toList.contains o
      | .directory => "erwxdsOG".toList.contains o
      | .device _ => "erwcOG".toList.contains o
      | .descriptor n => "erwOG".toList.contains o && (c.opened? n).isSome
    | _ => false

def sameFile (c : Context) (a b : Text) : Bool :=
  match c.locate a, c.locate b with
  | .ok p, .ok q => p = q && (c.find a).toOption.isSome
  | _, _ => false

def number (extended : Bool) (t : Text) : Except Text Int :=
  match Shell.decimal? t with
  | some n => .ok n
  | none =>
    if extended then .error (t ++ ": integer expression expected".toList)
    else .error ("Illegal number: ".toList ++ t)

def compare (extended : Bool) (operator a b : Text) : Except Text Bool := do
  let m ← number extended a
  let n ← number extended b
  let is (s : String) : Bool := operator = s.toList
  return if is "-eq" then m = n
    else if is "-ne" then m ≠ n
    else if is "-lt" then m < n
    else if is "-le" then m ≤ n
    else if is "-gt" then m > n
    else m ≥ n

def applyUnary (extended : Bool) (c : Context) (operator w : Text) : Except Text Bool :=
  if operator = ['-', 'z'] then .ok w.isEmpty
  else if operator = ['-', 'n'] then .ok (!w.isEmpty)
  else if operator = ['-', 't'] then (number extended w).map fun _ ↦ false
  else .ok (asks c operator w)

def applyBinary (extended : Bool) (c : Context) (operator a b : Text) : Except Text Bool :=
  let is (s : String) : Bool := operator = s.toList
  if is "=" || is "==" then .ok (a = b)
  else if is "!=" then .ok (a ≠ b)
  else if is "<" then .ok (a < b)
  else if is ">" then .ok (b < a)
  else if is "-ef" then .ok (sameFile c a b)
  else if is "-nt" then .ok ((c.find a).toOption.isSome && (c.find b).toOption.isNone)
  else if is "-ot" then .ok ((c.find a).toOption.isNone && (c.find b).toOption.isSome)
  else compare extended operator a b

variable (extended : Bool) (c : Context)

def lex (ws : List Text) : Option Shape :=
  match ws with
  | [] => none
  | w :: rest =>
    match shape? extended w with
    | some .unary =>
      let isOperand : Bool := match rest with
        | [] => true
        | [_] => false
        | o :: _ => shape? extended o = some .binary
      if isOperand then none else some .unary
    | some .opening => if rest.isEmpty then none else some .opening
    | s => s

mutual

/-- Reads alternatives from the words. What is left begins with the last word that was used. -/
def readEither : Nat → Option Shape → List Text → Except Text (Bool × List Text)
  | 0, _, _ => .error "too deep".toList
  | fuel + 1, s, ws => do
    let (a, ws) ← readBoth fuel s ws
    if lex extended (ws.drop 1) = some .or then
      let (b, ws) ← readEither fuel (lex extended (ws.drop 2)) (ws.drop 2)
      return (a || b, ws)
    else return (a, ws)

def readBoth : Nat → Option Shape → List Text → Except Text (Bool × List Text)
  | 0, _, _ => .error "too deep".toList
  | fuel + 1, s, ws => do
    let (a, ws) ← readNegated fuel s ws
    if lex extended (ws.drop 1) = some .and then
      let (b, ws) ← readBoth fuel (lex extended (ws.drop 2)) (ws.drop 2)
      return (a && b, ws)
    else return (a, ws)

def readNegated : Nat → Option Shape → List Text → Except Text (Bool × List Text)
  | 0, _, _ => .error "too deep".toList
  | fuel + 1, s, ws => do
    if s = some .negation then
      match ws.drop 1 with
      | [] => return (true, ws)
      | rest =>
        let (a, ws) ← readNegated fuel (lex extended rest) rest
        return (!a, ws)
    else readPrimary fuel s ws

def readPrimary : Nat → Option Shape → List Text → Except Text (Bool × List Text)
  | 0, _, _ => .error "too deep".toList
  | fuel + 1, s, ws => do
    match ws with
    | [] => return (false, [])
    | w :: rest =>
      if s = some .opening then
        let inner := lex extended rest
        if inner = some .closing then return (false, rest)
        else
          let (a, ws) ← readEither fuel inner rest
          match ws.drop 1 with
          | x :: after =>
            if lex extended (x :: after) = some .closing then return (a, x :: after)
            else throw "closing paren expected".toList
          | [] => throw "closing paren expected".toList
      else if s = some .unary then
        match rest with
        | [] => throw (w ++ ": argument expected".toList)
        | x :: _ => return (← applyUnary extended c w x, rest)
      else if lex extended rest = some .binary then
        match rest with
        | o :: x :: after => return (← applyBinary extended c o w x, x :: after)
        | o :: [] => throw (o ++ ": argument expected".toList)
        | [] => return (false, ws)
      else return (!w.isEmpty, ws)

end

def decide? : Nat → List Text → Except Text Bool
  | 0, _ => .error "too deep".toList
  | fuel + 1, ws =>
    let whole (s : Option Shape) (ws : List Text) : Except Text Bool := do
      if ws.isEmpty then return false
      let (a, ws) ← readEither extended c (4 * ws.length + 8) s ws
      match ws with
      | w :: _ :: _ =>
        throw (if w.isEmpty then "unexpected operator".toList
          else w ++ ": unexpected operator".toList)
      | _ => return a
    let special : Except Text Bool :=
      match ws with
      | w :: rest =>
        if w = ['('] && ws.getLast? = some [')'] then
          let inner := rest.dropLast
          whole (lex extended inner) inner
        else if w = ['!'] then (decide? fuel rest).map (!·)
        else whole (lex extended ws) ws
      | [] => .ok false
    match ws with
    | [] => .ok false
    | [_, o, _] => if shape? extended o = some .binary then whole none ws else special
    | [_, _, _, _] => special
    | ws => whole (lex extended ws) ws

def evaluate (ws : List Text) : Except Text Bool := decide? extended c (ws.length + 1) ws

end PpiDump.Conditions
