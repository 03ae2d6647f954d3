import PpiDump.Number.Binary
import PpiDump.Shell.Arithmetic

namespace PpiDump.Format

open Shell (Dialect digitValue? readDigits readSigned readNatural isSpace)

def isOctal (c : Char) : Bool := '0' ≤ c && c ≤ '7'

def unicode (n digits : Nat) : Text :=
  if n < 0x80 then [Char.ofNat n]
  else
    let ds := (Nat.toDigits 16 n).map Char.toUpper
    '\\' :: (if digits = 4 then 'u' else 'U') :: List.replicate (digits - ds.length) '0' ++ ds

/-- What an escape stands for, given what follows its backslash, and the rest. A backslash that
starts no escape stands for itself. -/
def readEscape (d : Dialect) : Text → Text × Text
  | [] => (['\\'], [])
  | c :: rest =>
    if isOctal c then
      let (n, rest) := readDigits 8 3 (c :: rest)
      ([Char.ofNat (n % 256)], rest)
    else
      match ("abefnrtv\\".toList.zip "\x07\x08\x1b\x0c\n\r\t\x0b\\".toList).find? (·.1 = c) with
      | some (_, v) => ([v], rest)
      | none =>
        if d = .plain then (['\\'], c :: rest)
        else if c = '"' then (['"'], rest)
        else if c = 'x' || c = 'u' || c = 'U' then
          let most := if c = 'x' then 2 else if c = 'u' then 4 else 8
          let (n, after) := readDigits 16 most rest
          if after.length = rest.length then (['\\'], c :: rest)
          else if c = 'x' then ([Char.ofNat n], after)
          else (unicode n most, after)
        else (['\\'], c :: rest)

/-- A text with its escapes replaced, and whether one of them asked to stop there. An octal escape
may have a zero ahead of its three digits. -/
def expandEscapes (d : Dialect) : Nat → Text → Text × Bool
  | 0, _ => ([], false)
  | fuel + 1, s =>
    match s with
    | [] => ([], false)
    | '\\' :: 'c' :: _ => ([], true)
    | '\\' :: rest =>
      let rest := match rest with
        | '0' :: d :: more => if isOctal d then d :: more else rest
        | _ => rest
      let (t, rest) := readEscape d rest
      let (u, stop) := expandEscapes d fuel rest
      (t ++ u, stop)
    | c :: rest =>
      let (t, stop) := expandEscapes d fuel rest
      (c :: t, stop)

def joinWords (ws : List Text) : Text := Text.join [' '] ws

def echo (args : List Text) : Text :=
  let (opened, ws) := match args with
    | ['-', 'n'] :: ws => (true, ws)
    | ws => (false, ws)
  let line := joinWords ws
  let (t, stop) := expandEscapes .plain (line.length + 1) line
  if opened || stop then t else t ++ ['\n']

def echoWithOptions (args : List Text) : Text :=
  let isOption : Text → Bool := fun w ↦
    match w with
    | '-' :: c :: cs => (c :: cs).all fun c ↦ c = 'n' || c = 'e' || c = 'E'
    | _ => false
  let letters := (args.takeWhile isOption).flatten
  let line := joinWords (args.dropWhile isOption)
  let escapes := (letters.reverse.find? fun c ↦ c = 'e' || c = 'E') = some 'e'
  let (t, stop) :=
    if escapes then expandEscapes .extended (line.length + 1) line else (line, false)
  if letters.contains 'n' || stop then t else t ++ ['\n']

structure Field where
  flags : Text := []
  width : Nat := 0
  precision : Option Nat := none
  deriving DecidableEq, Repr

namespace Field

def has (f : Field) (flag : Char) : Bool := f.flags.contains flag

def pad (f : Field) (t : Text) : Text :=
  let gap := List.replicate (f.width - t.length) ' '
  if f.has '-' then t ++ gap else gap ++ t

def text (f : Field) (t : Text) : Text :=
  f.pad (match f.precision with
    | some n => t.take n
    | none => t)

def zeroed (f : Field) (mark digits : Text) (zeros : Bool) : Text :=
  if zeros && f.has '0' && !f.has '-' then
    mark ++ List.replicate (f.width - mark.length - digits.length) '0' ++ digits
  else f.pad (mark ++ digits)

def number (f : Field) (mark digits : Text) : Text :=
  let digits := match f.precision with
    | some n =>
      if n = 0 && digits = ['0'] then [] else List.replicate (n - digits.length) '0' ++ digits
    | none => digits
  f.zeroed mark digits f.precision.isNone

def sign (f : Field) (negative : Bool) : Text :=
  if negative then ['-'] else if f.has '+' then ['+'] else if f.has ' ' then [' '] else []

def signed (f : Field) (n : Int) : Text := f.number (f.sign (n < 0)) (Text.ofNat n.natAbs)

def unsigned (f : Field) (base : Nat) (upper : Bool) (n : Int) : Text :=
  let n := (n % Int.pow 2 64).toNat
  let digits := Nat.toDigits base n
  let digits := if upper then digits.map Char.toUpper else digits
  let mark :=
    if !f.has '#' || n = 0 then []
    else if base = 16 then if upper then ['0', 'X'] else ['0', 'x']
    else if base = 8 then ['0']
    else []
  f.number mark digits

def real (f : Field) (letter : Char) (x : Binary) : Text :=
  let places := f.precision.getD 6
  let e := if letter.isUpper then 'E' else 'e'
  let body := match letter.toLower with
    | 'f' => x.fixed places (f.has '#')
    | 'e' => x.scientific places (f.has '#') e
    | _ => x.general places (f.has '#') e
  f.zeroed (f.sign x.negative) body true

end Field

/-- The state of a run of `printf`: the text so far, the arguments that are left, the messages, the
latest first, and whether it is over. A conversion that does not exist ends it. -/
structure Printing where
  dialect : Dialect
  text : Text := []
  args : List Text
  messages : List Text := []
  stopped : Bool := false
  invalid : Bool := false

namespace Printing

def put (p : Printing) (t : Text) : Printing := { p with text := p.text ++ t }

def complain (p : Printing) (message : Text) : Printing :=
  { p with messages := message :: p.messages }

def next (p : Printing) : Option Text × Printing :=
  match p.args with
  | [] => (none, p)
  | a :: args => (some a, { p with args })

def check (p : Printing) (a rest : Text) (inRange : Bool) : Printing :=
  let extended := p.dialect = .extended
  let name := if extended then '\'' :: a ++ ['\''] else a
  if rest.length = a.length && (extended || !a.isEmpty) then
    p.complain (name ++ (if extended then ": expected a numeric value"
      else ": expected numeric value").toList)
  else if !rest.isEmpty then
    p.complain (name ++ (if extended then ": value not completely converted"
      else ": not completely converted").toList)
  else if !inRange then p.complain (name ++ ": Numerical result out of range".toList)
  else p

def nextInteger (p : Printing) (isSigned : Bool) : Int × Printing :=
  match p.next with
  | (none, p) => (0, p)
  | (some (q :: cs), p) =>
    if q = '\'' || q = '"' then ((cs.headD '\x00').toNat, p)
    else
      let (n, rest, _) := readSigned readNatural (q :: cs)
      let m := if isSigned then Shell.clampInteger n
        else if n.natAbs < Nat.pow 2 64 then n
        else Int.pow 2 64 - 1
      (m, p.check (q :: cs) rest (m = n))
  | (some [], p) => (0, p.check [] [] true)

def nextReal (p : Printing) : Binary × Printing :=
  let bits := if p.dialect = .extended then 64 else 53
  match p.next with
  | (none, p) => (⟨false, 0, 0⟩, p)
  | (some (q :: cs), p) =>
    if q = '\'' || q = '"' then (.ofQuotient bits false (cs.headD '\x00').toNat 1, p)
    else
      match Binary.read? bits (q :: cs) with
      | some (x, rest) => (x, p.check (q :: cs) rest true)
      | none => (⟨false, 0, 0⟩, p.check (q :: cs) (q :: cs) true)
  | (some [], p) => (⟨false, 0, 0⟩, p.check [] [] true)

def readCount (p : Printing) : Text → Option Int × Printing × Text
  | '*' :: rest =>
    let (n, p) := p.nextInteger true
    (some n, p, rest)
  | s =>
    match s.takeWhile Char.isDigit with
    | [] => (none, p, s)
    | ds => (some (Text.ofDigits ds), p, s.drop ds.length)

def shellQuoted (t : Text) : Text :=
  let isSafe (c : Char) : Bool := c.isAlphanum || "_-./:@%+,=".toList.contains c
  if t.isEmpty then "''".toList
  else if t.all isSafe then t
  else
    t.flatMap fun c ↦ if isSafe c then [c] else ['\\', c]

def convert (p : Printing) (f : Field) (letter : Char) (directive : Text) : Printing :=
  if letter = 's' then
    let (a, p) := p.next
    p.put (f.text (a.getD []))
  else if letter = 'b' then
    let (a, p) := p.next
    let a := a.getD []
    let (t, stop) := expandEscapes p.dialect (a.length + 1) a
    { p.put (f.text t) with stopped := stop }
  else if letter = 'q' && p.dialect = .extended then
    let (a, p) := p.next
    p.put (f.text (shellQuoted (a.getD [])))
  else if letter = 'c' then
    let (a, p) := p.next
    match a with
    | some (c :: _) => p.put (f.pad [c])
    | _ => p.put (f.pad (if p.dialect = .extended then [] else ['\x00']))
  else if letter = 'd' || letter = 'i' then
    let (n, p) := p.nextInteger true
    p.put (f.signed n)
  else if letter = 'u' || letter = 'o' || letter = 'x' || letter = 'X' then
    let (n, p) := p.nextInteger false
    p.put (f.unsigned (if letter = 'u' then 10 else if letter = 'o' then 8 else 16)
      (letter = 'X') n)
  else if "eEfFgG".toList.contains letter then
    let (x, p) := p.nextReal
    p.put (f.real letter x)
  else
    { p.complain (directive ++ (if p.dialect = .extended then ": invalid conversion specification"
        else ": invalid directive").toList) with stopped := true, invalid := true }

def once : Nat → Text → Printing → Printing
  | 0, _, p => p
  | fuel + 1, s, p =>
    if p.stopped then p
    else
      match s with
      | [] => p
      | '\\' :: rest =>
        if p.dialect = .extended && rest.head? = some 'c' then { p with stopped := true }
        else
          let (t, rest) := readEscape p.dialect rest
          once fuel rest (p.put t)
      | '%' :: '%' :: rest => once fuel rest (p.put ['%'])
      | '%' :: start =>
        let isFlag : Char → Bool := fun c ↦ "#-+ 0".toList.contains c
        let flags := start.takeWhile isFlag
        let (width, p, rest) := p.readCount (start.drop flags.length)
        let flags := if width.any (· < 0) then '-' :: flags else flags
        let (precision, p, rest) := match rest with
          | '.' :: rest =>
            let (n, p, rest) := p.readCount rest
            (some (n.getD 0).toNat, p, rest)
          | rest => (none, p, rest)
        match rest with
        | [] =>
          { p.complain "missing format character".toList with stopped := true, invalid := true }
        | letter :: rest =>
          let directive := '%' :: start.take (start.length - rest.length)
          once fuel rest (p.convert ⟨flags, (width.getD 0).natAbs, precision⟩ letter directive)
      | c :: rest =>
        let run := c :: rest.takeWhile fun c ↦ c ≠ '%' && c ≠ '\\'
        once fuel (rest.dropWhile fun c ↦ c ≠ '%' && c ≠ '\\') (p.put run)

def repeated : Nat → Text → Printing → Printing
  | 0, _, p => p
  | fuel + 1, s, p =>
    let p' := once (s.length + 1) s p
    if p'.stopped || p'.args.isEmpty || p'.args.length = p.args.length then p'
    else repeated fuel s p'

end Printing

def print (dialect : Dialect) (format : Text) (args : List Text) : Printing :=
  Printing.repeated (args.length + 1) format { dialect, args }

end PpiDump.Format
