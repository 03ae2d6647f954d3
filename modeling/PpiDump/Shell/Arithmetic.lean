import PpiDump.Shell.Reader

namespace PpiDump.Shell

/-- The number of 64 bits with a sign that has the same last bits. -/
def wrap (n : Int) : Int := Int.bmod n (Nat.pow 2 64)

def maxInteger : Int := Int.pow 2 63 - 1

def minInteger : Int := -(Int.pow 2 63)

def clampInteger (n : Int) : Int := max minInteger (min maxInteger n)

def isSpace (c : Char) : Bool := c = ' ' || ('\t' ≤ c && c ≤ '\r')

def writeInteger (n : Int) : Text :=
  if n < 0 then '-' :: Text.ofNat n.natAbs else Text.ofNat n.natAbs

def readNatural (t : Text) : Nat × Text :=
  match t with
  | '0' :: x :: c :: rest =>
    if (x = 'x' || x = 'X') && (digitValue? 16 c).isSome then
      readDigits 16 (rest.length + 1) (c :: rest)
    else readDigits 8 t.length t
  | '0' :: _ => readDigits 8 t.length t
  | t => readDigits 10 t.length t

def readSigned (natural : Text → Nat × Text) (t : Text) : Int × Text × Bool :=
  let s := t.dropWhile isSpace
  let (negative, s) := match s with
    | '-' :: s => (true, s)
    | '+' :: s => (false, s)
    | s => (false, s)
  let (n, rest) := natural s
  if rest.length = s.length then (0, t, false) else (if negative then -n else n, rest, true)

def decimal? (t : Text) : Option Int :=
  match readSigned (fun s ↦ readDigits 10 s.length s) t with
  | (n, rest, true) =>
    if rest.all isSpace && minInteger ≤ n && n ≤ maxInteger then some n else none
  | _ => none

def integer? (t : Text) : Option Int :=
  match readSigned readNatural t with
  | (n, rest, true) => if rest.all isSpace then some (clampInteger n) else none
  | _ => if t.all isSpace then some 0 else none

inductive Expression where
  | number (n : Int)
  | variable (name : Text)
  | unary (operator : Char) (a : Expression)
  | binary (operator : Text) (a b : Expression)
  | both (a b : Expression)
  | either (a b : Expression)
  | conditional (a b c : Expression)
  | assign (name : Text) (operator : Text) (a : Expression)
  | step (name : Text) (by_ : Int) (old : Bool)
  | sequence (a b : Expression)
  | fault (reason : String)

namespace Expression

inductive Symbol where
  | number (n : Int)
  | name (t : Text)
  | operator (t : Text)
  | other
  deriving DecidableEq, Repr

def operators (extended : Bool) : List Text :=
  ((if extended then ["**", "++", "--", ","] else []) ++
    ["<<=", ">>=", "<<", ">>", "<=", ">=", "==", "!=", "&&", "||", "*=", "/=", "%=", "+=", "-=",
      "&=", "^=", "|=", "=", "<", ">", "&", "|", "^", "+", "-", "*", "/", "%", "!", "~", "?", ":",
      "(", ")"]).map String.toList

def readNumber (extended : Bool) (t : Text) : Int × Text :=
  let (n, rest) := readNatural t
  match extended, rest with
  | true, '#' :: digits =>
    let (m, rest) := readDigits n digits.length digits
    (wrap m, rest)
  | _, rest => (clampInteger n, rest)

def isGap (extended : Bool) (c : Char) : Bool :=
  if extended then isSpace c else c = ' ' || c = '\t' || c = '\n'

def symbols (extended : Bool) : Nat → Text → List Symbol
  | 0, _ => []
  | fuel + 1, t =>
    match t with
    | [] => []
    | c :: rest =>
      if isGap extended c then symbols extended fuel rest
      else if c.isDigit then
        let (n, rest) := readNumber extended (c :: rest)
        .number n :: symbols extended fuel rest
      else if isNameStart c then
        let name := c :: rest.takeWhile isNameChar
        let after := rest.dropWhile isNameChar
        match extended, after with
        | true, '[' :: index =>
          let inside := index.takeWhile (· ≠ ']')
          .name (name ++ '[' :: inside ++ [']']) ::
            symbols extended fuel (index.drop (inside.length + 1))
        | _, _ => .name name :: symbols extended fuel after
      else
        match (operators extended).find? (·.isPrefixOf (c :: rest)) with
        | some o => .operator o :: symbols extended fuel ((c :: rest).drop o.length)
        | none => [.other]

def levels : List (List Text) :=
  [["||"], ["&&"], ["|"], ["^"], ["&"], ["==", "!="], ["<", "<=", ">", ">="], ["<<", ">>"],
    ["+", "-"], ["*", "/", "%"]].map (·.map String.toList)

def assignments : List (Text × Text) :=
  ["=", "*=", "/=", "%=", "+=", "-=", "<<=", ">>=", "&=", "^=", "|="].map
    fun s ↦ (s.toList, s.toList.dropLast)

def join (o : Text) (a b : Expression) : Expression :=
  if o = ['&', '&'] then .both a b
  else if o = ['|', '|'] then .either a b
  else .binary o a b

mutual

def readSequence (extended : Bool) : Nat → List Symbol → Expression × List Symbol
  | 0, ss => (.fault "expecting primary", ss)
  | fuel + 1, ss =>
    match readAssignment extended fuel ss with
    | (a, .operator [','] :: ss) =>
      let (b, ss) := readSequence extended fuel ss
      (.sequence a b, ss)
    | r => r

def readAssignment (extended : Bool) : Nat → List Symbol → Expression × List Symbol
  | 0, ss => (.fault "expecting primary", ss)
  | fuel + 1, ss =>
    match ss with
    | .name x :: .operator o :: rest =>
      match assignments.find? (·.1 = o) with
      | some (_, o) =>
        let (a, rest) := readAssignment extended fuel rest
        (.assign x o a, rest)
      | none => readConditional extended fuel ss
    | ss => readConditional extended fuel ss

def readConditional (extended : Bool) : Nat → List Symbol → Expression × List Symbol
  | 0, ss => (.fault "expecting primary", ss)
  | fuel + 1, ss =>
    match readLevel extended fuel levels ss with
    | (a, .operator ['?'] :: ss) =>
      match readAssignment extended fuel ss with
      | (b, .operator [':'] :: ss) =>
        let (c, ss) := readConditional extended fuel ss
        (.conditional a b c, ss)
      | (b, ss) => (.conditional a (.sequence b (.fault "expecting ':'")) (.number 0), ss)
    | r => r

def readLevel (extended : Bool) : Nat → List (List Text) → List Symbol → Expression × List Symbol
  | 0, _, ss => (.fault "expecting primary", ss)
  | fuel + 1, [], ss => readPower extended fuel ss
  | fuel + 1, os :: tighter, ss =>
    let (a, ss) := readLevel extended fuel tighter ss
    readRest extended fuel os tighter a ss

def readRest (extended : Bool) : Nat → List Text → List (List Text) → Expression → List Symbol →
    Expression × List Symbol
  | 0, _, _, a, ss => (a, ss)
  | fuel + 1, os, tighter, a, ss =>
    match ss with
    | .operator o :: rest =>
      if os.contains o then
        let (b, rest) := readLevel extended fuel tighter rest
        readRest extended fuel os tighter (join o a b) rest
      else (a, ss)
    | _ => (a, ss)

def readPower (extended : Bool) : Nat → List Symbol → Expression × List Symbol
  | 0, ss => (.fault "expecting primary", ss)
  | fuel + 1, ss =>
    match readUnary extended fuel ss with
    | (a, .operator ['*', '*'] :: ss) =>
      let (b, ss) := readPower extended fuel ss
      (.binary ['*', '*'] a b, ss)
    | r => r

def readUnary (extended : Bool) : Nat → List Symbol → Expression × List Symbol
  | 0, ss => (.fault "expecting primary", ss)
  | fuel + 1, ss =>
    match ss with
    | .number n :: rest => (.number n, rest)
    | .name x :: .operator ['+', '+'] :: rest => (.step x 1 true, rest)
    | .name x :: .operator ['-', '-'] :: rest => (.step x (-1) true, rest)
    | .name x :: rest => (.variable x, rest)
    | .operator ['+', '+'] :: .name x :: rest => (.step x 1 false, rest)
    | .operator ['-', '-'] :: .name x :: rest => (.step x (-1) false, rest)
    | .operator ['('] :: rest =>
      match readSequence extended fuel rest with
      | (a, .operator [')'] :: rest) => (a, rest)
      | (a, rest) => (.sequence a (.fault "expecting ')'"), rest)
    | .operator [c] :: rest =>
      if "-+!~".toList.contains c then
        let (a, rest) := readUnary extended fuel rest
        (.unary c a, rest)
      else (.fault "expecting primary", ss)
    | ss => (.fault "expecting primary", ss)

end

/-- Reads an expression. What cannot be read is a fault in its place. -/
def ofText (extended : Bool) (t : Text) : Expression :=
  let ss := symbols extended (t.length + 1) t
  if ss.isEmpty && extended then .number 0
  else
    match readSequence extended (20 * ss.length + 40) ss with
    | (e, []) => e
    | (e, _) => .sequence e (.fault "expecting EOF")

def fault? : Expression → Option String
  | .fault reason => some reason
  | .number _ | .variable _ | .step .. => none
  | .unary _ a => a.fault?
  | .binary _ a b | .both a b | .either a b | .sequence a b => a.fault?.or b.fault?
  | .conditional a b c => a.fault?.or (b.fault?.or c.fault?)
  | .assign _ _ a => a.fault?

def truth (b : Bool) : Int := if b then 1 else 0

def applyUnary (o : Char) (a : Int) : Int :=
  if o = '-' then wrap (-a)
  else if o = '!' then truth (a = 0)
  else if o = '~' then -a - 1
  else a

def bits (n : Int) : Nat := (n % Int.pow 2 64).toNat

def combine? (o : Text) (a b : Int) : Option Int :=
  if o = ['/'] then if b = 0 then none else some (wrap (a.tdiv b))
  else if o = ['%'] then if b = 0 then none else some (a.tmod b)
  else
    some <|
      if o = ['+'] then wrap (a + b)
      else if o = ['-'] then wrap (a - b)
      else if o = ['*'] then wrap (a * b)
      else if o = ['*', '*'] then wrap (Int.pow a b.toNat)
      else if o = ['<'] then truth (a < b)
      else if o = ['>'] then truth (a > b)
      else if o = ['<', '='] then truth (a ≤ b)
      else if o = ['>', '='] then truth (a ≥ b)
      else if o = ['=', '='] then truth (a = b)
      else if o = ['!', '='] then truth (a ≠ b)
      else if o = ['&'] then wrap (bits a &&& bits b)
      else if o = ['|'] then wrap (bits a ||| bits b)
      else if o = ['^'] then wrap (bits a ^^^ bits b)
      else if o = ['<', '<'] then wrap (a * Int.pow 2 (bits b % 64))
      else if o = ['>', '>'] then a.shiftRight (bits b % 64)
      else b

end Expression

end PpiDump.Shell
