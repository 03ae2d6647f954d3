import PpiDump.Tool.Basic
import PpiDump.Tool.Format
import PpiDump.Tool.Regex

namespace PpiDump.Tool

/-- A decimal number: its digits as a whole number, and how many of them are behind the point. -/
structure Fraction where
  value : Int
  places : Nat
  width : Nat

namespace Fraction

def read? (t : Text) : Option Fraction :=
  let body := t.dropWhile fun c ↦ c = ' '
  let (negative, ds) := match body with
    | '-' :: ds => (true, ds)
    | '+' :: ds => (false, ds)
    | ds => (false, ds)
  let whole := ds.takeWhile Char.isDigit
  let rest := ds.drop whole.length
  let (fraction, rest) := match rest with
    | '.' :: rest =>
      let f := rest.takeWhile Char.isDigit
      (f, rest.drop f.length)
    | rest => ([], rest)
  if whole.isEmpty && fraction.isEmpty then none
  else
    let power : Option Int := match rest with
      | [] => some 0
      | e :: '-' :: ds => if (e = 'e' || e = 'E') && !ds.isEmpty && ds.all Char.isDigit then
          some (-(Text.ofDigits ds : Int)) else none
      | e :: ds =>
        let ds := if ds.head? = some '+' then ds.drop 1 else ds
        if (e = 'e' || e = 'E') && !ds.isEmpty && ds.all Char.isDigit then
          some (Text.ofDigits ds) else none
    power.bind fun power ↦
      if power.natAbs > 60 then none
      else
        let n : Int := Text.ofDigits (whole ++ fraction)
        let n := if negative then -n else n
        let places : Int := fraction.length - power
        let written := (whole.length + if fraction.isEmpty then 0 else fraction.length + 1) +
          (if whole.isEmpty then 1 else 0) + (if negative then 1 else 0)
        if places < 0 then some ⟨n * Int.pow 10 places.natAbs, 0, written + places.natAbs⟩
        else some ⟨n, places.natAbs, written⟩

def scaled (f : Fraction) (places : Nat) : Int := f.value * Int.pow 10 (places - f.places)

def text (places width : Nat) (n : Int) : Text :=
  let body := Binary.pointed places false (Binary.padded (places + 1) n.natAbs)
  let sign : Text := if n < 0 then ['-'] else []
  sign ++ List.replicate (width - sign.length - body.length) '0' ++ body

end Fraction

def termLimit : Nat := 1000000

def termsBetween (start step last : Int) : List Int :=
  if (0 < step && last < start) || (step < 0 && start < last) then []
  else
    let count := (last - start).natAbs / step.natAbs + 1
    (List.range (min count termLimit)).map fun (k : Nat) ↦ start + step * k

def protectNumbers (args : List Text) : List Text :=
  let isOption (a : Text) : Bool := match a with
    | '-' :: c :: _ => !(c.isDigit || c = '.')
    | _ => false
  match args with
  | a :: b :: rest =>
    if isOption a then
      if a = ['-', 'f'] || a = ['-', 's'] then
        a :: b :: (match rest with
          | c :: d :: more => if isOption c then
              if c = ['-', 'f'] || c = ['-', 's'] then c :: d :: ['-', '-'] :: more
              else c :: ['-', '-'] :: d :: more
            else ['-', '-'] :: rest
          | rest => ['-', '-'] :: rest)
      else if isOption b then
        if b = ['-', 'f'] || b = ['-', 's'] then a :: b :: (rest.take 1 ++ ['-', '-'] :: rest.drop 1)
        else a :: b :: ['-', '-'] :: rest
      else if a = ['-', '-'] then args
      else a :: ['-', '-'] :: b :: rest
    else ['-', '-'] :: args
  | [a] => if isOption a then args else ['-', '-'] :: args
  | [] => []

def formatFault? (format : Text) : Option Text :=
  let told (message : String) : Option Text :=
    some ("format ".toList ++ shellQuoted format ++ " has ".toList ++ message.toList)
  let rec directives : Text → List Char
    | [] => []
    | ['%'] => ['%']
    | '%' :: c :: t => if c = '%' then directives t else letterOf (c :: t) :: directives t
    | _ :: t => directives t
  match directives format with
  | [] => told "no % directive"
  | [c] =>
    if "aefgAEFG".toList.contains c then none
    else told (String.ofList ("unknown %".toList ++ c :: " directive".toList))
  | _ => told "too many % directives"
where
  letterOf (t : Text) : Char :=
    (t.dropWhile fun c ↦ c.isDigit || "-+ #0'.".toList.contains c).headD '%'

def sequence : Tool := fun args ↦
  withOptions "seq" {
      letters := "w", valued := "fs", strict := true
      long := [("equal-width", 'w'), ("format", 'f'), ("separator", 's')] } 1 (fun g ↦ do
    let separator := (g.value? 's').getD ['\n']
    match g.operands with
    | [] => misuse "seq" "missing operand".toList 1
    | _ :: _ :: _ :: extra :: _ => misuse "seq" ("extra operand ".toList ++ shellQuoted extra) 1
    | operands =>
      if let some message := (g.value? 'f').bind formatFault? then
        complain "seq" message
        return 1
      match operands.find? fun t ↦ (Fraction.read? t).isNone with
      | some t =>
        if t = "inf".toList || t = "infinity".toList then
          put ((termsBetween 1 1 200000).flatMap fun n ↦ Fraction.text 0 0 n ++ separator)
          ProcessM.changeProcess fun p ↦ { p with stuck := true }
          return 0
        else misuse "seq" ("invalid floating point argument: ".toList ++ shellQuoted t) 1
      | none =>
        let one : Fraction := ⟨1, 0, 1⟩
        let (start, step, last) := match operands.filterMap Fraction.read? with
          | [last] => (one, one, last)
          | [start, last] => (start, one, last)
          | [start, step, last] => (start, step, last)
          | _ => (one, one, one)
        if step.value = 0 then
          misuse "seq" ("invalid Zero increment value: ".toList ++
            shellQuoted (operands.getD 1 [])) 1
        else
          let places := max start.places step.places
          let finer := max places last.places
          let ns := termsBetween (start.scaled finer) (step.scaled finer) (last.scaled finer)
          let shrink (n : Int) : Int := n / Int.pow 10 (finer - places)
          let pointWidth := if places = 0 then 0 else places + 1
          let whole (f : Fraction) : Nat :=
            f.width - if f.places = 0 then 0 else f.places + 1
          let width := if g.has 'w' then max (whole start) (whole last) + pointWidth else 0
          let texts := match g.value? 'f' with
            | some format => ns.map fun n ↦
                (Format.print .extended format [Fraction.text places 0 (shrink n)]).text
            | none => ns.map fun n ↦ Fraction.text places width (shrink n)
          if !texts.isEmpty then put (Text.join separator texts ++ ['\n'])
          return 0) (protectNumbers args)

inductive ExpressionError where
  | missingAfter (t : Text)
  | unexpected (t : Text)
  | unexpectedClose
  | unclosed (t : Text)
  | notInteger
  | divisionByZero
  | badPattern (f : Regex.Flaw)

def ExpressionError.message : ExpressionError → Text
  | missingAfter t => "syntax error: missing argument after ".toList ++ shellQuoted t
  | unexpected t => "syntax error: unexpected argument ".toList ++ shellQuoted t
  | unexpectedClose => "syntax error: unexpected ')'".toList
  | unclosed t => "syntax error: expecting ')' after ".toList ++ shellQuoted t
  | notInteger => "non-integer argument".toList
  | divisionByZero => "division by zero".toList
  | badPattern f => f.message

namespace WordExpression

def integer? (t : Text) : Option Int :=
  match t with
  | '-' :: ds => if ds.isEmpty || !ds.all Char.isDigit then none else some (-(Text.ofDigits ds : Int))
  | ds => if ds.isEmpty || !ds.all Char.isDigit then none else some (Text.ofDigits ds)

def ofInteger (n : Int) : Text := if n < 0 then '-' :: Text.ofNat n.natAbs else Text.ofNat n.natAbs

def isNull (t : Text) : Bool :=
  t.isEmpty || (let ds := if t.head? = some '-' then t.drop 1 else t
    !ds.isEmpty && ds.all (· = '0'))

def matchStart (t pattern : Text) : Except ExpressionError Text :=
  match Regex.read { emptyRanges := true } pattern with
  | .error f => .error (.badPattern f)
  | .ok r =>
    let hasGroup := Text.hasPart "\\(".toList pattern
    match Regex.solve false (20 * t.length + 400) [.match_ r] ⟨none, t⟩ [] with
    | some m =>
      if hasGroup then .ok (((m.groups.find? (·.1 = 1)).map Prod.snd).getD [])
      else .ok (Text.ofNat (t.length - m.rest.length))
    | none => .ok (if hasGroup then [] else ['0'])

def operators : List (List String) :=
  [["|"], ["&"], ["<", "<=", "=", "==", "!=", ">=", ">"], ["+", "-"], ["*", "/", "%"], [":"]]

def compareWords (o a b : Text) : Bool :=
  let order := match integer? a, integer? b with
    | some m, some n => compare m n
    | _, _ => if a < b then .lt else if b < a then .gt else .eq
  let is (s : String) : Bool := o = s.toList
  if is "<" then order = .lt
  else if is "<=" then order ≠ .gt
  else if is ">" then order = .gt
  else if is ">=" then order ≠ .lt
  else if is "!=" then order ≠ .eq
  else order = .eq

def combineWords (o a b : Text) : Except ExpressionError Text :=
  let is (s : String) : Bool := o = s.toList
  if is "|" then .ok (if !isNull a then a else if isNull b then ['0'] else b)
  else if is "&" then .ok (if isNull a || isNull b then ['0'] else a)
  else if is ":" then matchStart a b
  else if "+-*/%".toList.map ([·]) |>.contains o then
    match integer? a, integer? b with
    | some m, some n =>
      if is "+" then .ok (ofInteger (m + n))
      else if is "-" then .ok (ofInteger (m - n))
      else if is "*" then .ok (ofInteger (m * n))
      else if n = 0 then .error .divisionByZero
      else if is "/" then .ok (ofInteger (m.tdiv n))
      else .ok (ofInteger (m.tmod n))
    | _, _ => .error .notInteger
  else .ok (if compareWords o a b then ['1'] else ['0'])

structure Rest where
  before : Text
  words : List Text

def part (t : Text) (start length : Nat) : Text := (t.drop (start - 1)).take length

mutual

/-- The value of an expression of operators from a strength on. Where `live` is not set, nothing is
computed. -/
def weigh : Nat → Nat → Bool → Rest → Except ExpressionError (Text × Rest)
  | 0, _, _, s => .error (.missingAfter s.before)
  | fuel + 1, strength, live, s =>
    match operators[strength]? with
    | none => single fuel live s
    | some _ => do
      let (a, s) ← weigh fuel (strength + 1) live s
      chain fuel strength live a s

def chain : Nat → Nat → Bool → Text → Rest → Except ExpressionError (Text × Rest)
  | 0, _, _, a, s => .ok (a, s)
  | fuel + 1, strength, live, a, s =>
    match s.words with
    | o :: words =>
      if ((operators[strength]?).getD []).any (·.toList = o) then do
        let needed := live && !(o = ['|'] && !isNull a) && !(o = ['&'] && isNull a)
        let (b, s) ← weigh fuel (strength + 1) needed ⟨o, words⟩
        let c ← if needed then combineWords o a b
          else if o = ['&'] then .ok ['0'] else .ok a
        chain fuel strength live c s
      else .ok (a, s)
    | [] => .ok (a, s)

def single : Nat → Bool → Rest → Except ExpressionError (Text × Rest)
  | 0, _, s => .error (.missingAfter s.before)
  | fuel + 1, live, s =>
    match s.words with
    | [] => .error (.missingAfter s.before)
    | w :: words =>
      let is (t : String) : Bool := w = t.toList
      let rest : Rest := ⟨w, words⟩
      if is "(" then do
        let (a, s) ← weigh fuel 0 live rest
        match s.words with
        | [')'] :: words => .ok (a, ⟨[')'], words⟩)
        | [] => .error (.unclosed s.before)
        | other :: _ => .error (.unexpected other)
      else if is ")" then .error .unexpectedClose
      else if is "+" then
        match words with
        | a :: words => .ok (a, ⟨a, words⟩)
        | [] => .error (.missingAfter w)
      else if is "length" then do
        let (a, s) ← single fuel live rest
        .ok (Text.ofNat a.length, s)
      else if is "match" then do
        let (a, s) ← single fuel live rest
        let (b, s) ← single fuel live s
        .ok (← if live then matchStart a b else .ok [], s)
      else if is "index" then do
        let (a, s) ← single fuel live rest
        let (b, s) ← single fuel live s
        .ok (Text.ofNat (((a.findIdx? fun c ↦ b.contains c).map (· + 1)).getD 0), s)
      else if is "substr" then do
        let (a, s) ← single fuel live rest
        let (b, s) ← single fuel live s
        let (c, s) ← single fuel live s
        match integer? b, integer? c with
        | some m, some n =>
          .ok (if m ≤ 0 || n ≤ 0 then [] else part a m.toNat n.toNat, s)
        | _, _ => .ok ([], s)
      else .ok (w, rest)

end

def evaluate (words : List Text) : Except ExpressionError Text := do
  let (a, s) ← weigh (10 * words.length + 50) 0 true ⟨[], words⟩
  match s.words with
  | [] => .ok a
  | w :: _ => .error (.unexpected w)

end WordExpression

def expression : Tool := fun args ↦ do
  let args := if args.head? = some ['-', '-'] then args.drop 1 else args
  if args.isEmpty then misuse "expr" "missing operand".toList 2
  else
    match WordExpression.evaluate args with
    | .ok t =>
      put (t ++ ['\n'])
      return status (!WordExpression.isNull t)
    | .error e =>
      complain "expr" e.message
      return 2

def factorsFrom : Nat → Nat → Nat → List Nat
  | 0, _, n => if n = 1 then [] else [n]
  | fuel + 1, d, n =>
    if n < d * d then if n ≤ 1 then [] else [n]
    else if n % d = 0 then d :: factorsFrom fuel d (n / d)
    else factorsFrom fuel (d + if d = 2 then 1 else 2) n

def factor : Tool := fun args ↦ do
  let words ← if args.isEmpty then do
      let t := (← ProcessM.readAll 0).toOption.getD []
      pure ((Text.splitOn ' ' (t.map fun c ↦ if c = '\n' || c = '\t' then ' ' else c)).filter
        (!·.isEmpty))
    else pure args
  let mut ok := true
  let mut lines : List Text := []
  for w in words do
    if w.isEmpty || !w.all Char.isDigit then
      complain "factor" (shellQuoted w ++ " is not a valid positive integer".toList)
      ok := false
    else
      let n := Text.ofDigits w
      lines := (Text.ofNat n ++ [':'] ++
        (factorsFrom 200000 2 n).flatMap (fun f ↦ ' ' :: Text.ofNat f)) :: lines
  putLines lines.reverse
  return status ok

end PpiDump.Tool
