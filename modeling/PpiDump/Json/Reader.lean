import PpiDump.Json.Value

namespace PpiDump.Json

def isBlank (c : Char) : Bool := c = ' ' || c = '\t' || c = '\n' || c = '\r'

def skipBlanks (s : Text) : Text := s.dropWhile isBlank

def stripWord (word s : Text) : Option Text :=
  if word.isPrefixOf s then some (s.drop word.length) else none

def readDigits (s : Text) : Option (Text × Text) :=
  match s.takeWhile Char.isDigit with
  | [] => none
  | ds => some (ds, s.dropWhile Char.isDigit)

def readWhole (s : Text) : Option (Text × Text) :=
  match readDigits s with
  | some ('0' :: _ :: _, _) => none
  | r => r

def readFraction : Text → Option (Text × Text)
  | '.' :: s => (readDigits s).map fun (ds, rest) ↦ ('.' :: ds, rest)
  | s => some ([], s)

def readExponent : Text → Option (Text × Text)
  | e :: s =>
    if e = 'e' || e = 'E' then
      match s with
      | sign :: rest =>
        if sign = '+' || sign = '-' then
          (readDigits rest).map fun (ds, rest) ↦ (e :: sign :: ds, rest)
        else (readDigits s).map fun (ds, rest) ↦ (e :: ds, rest)
      | [] => none
    else some ([], e :: s)
  | [] => some ([], [])

def readNumber (s : Text) : Option (Value × Text) := do
  let (sign, s) := match s with
    | '-' :: rest => (['-'], rest)
    | _ => ([], s)
  let (whole, s) ← readWhole s
  let (fraction, s) ← readFraction s
  let (exponent, s) ← readExponent s
  if sign.isEmpty && fraction.isEmpty && exponent.isEmpty then
    return (.nat (Text.ofDigits whole), s)
  else return (.number (sign ++ whole ++ fraction ++ exponent), s)

def hexValue? (c : Char) : Option Nat :=
  if c.isDigit then some (c.toNat - '0'.toNat)
  else if 'a' ≤ c && c ≤ 'f' then some (c.toNat - 'a'.toNat + 10)
  else if 'A' ≤ c && c ≤ 'F' then some (c.toNat - 'A'.toNat + 10)
  else none

def hexUnit? (a b c d : Char) : Option Nat := do
  let a ← hexValue? a
  let b ← hexValue? b
  let c ← hexValue? c
  let d ← hexValue? d
  return ((a * 16 + b) * 16 + c) * 16 + d

def simpleEscape? (c : Char) : Option Char :=
  if c = '"' || c = '\\' || c = '/' then some c
  else if c = 'b' then some '\x08'
  else if c = 'f' then some '\x0c'
  else if c = 'n' then some '\n'
  else if c = 'r' then some '\r'
  else if c = 't' then some '\t'
  else none

inductive Piece where
  | char (c : Char)
  | half (unit : Nat)
  deriving DecidableEq, Repr

def isHalf (unit : Nat) : Bool := 0xD800 ≤ unit && unit < 0xE000

def readPieces : Text → Option (List Piece × Text)
  | '"' :: rest => some ([], rest)
  | '\\' :: 'u' :: a :: b :: c :: d :: rest =>
    match hexUnit? a b c d with
    | none => none
    | some unit =>
      (readPieces rest).map fun (ps, rest) ↦
        ((if isHalf unit then .half unit else .char (Char.ofNat unit)) :: ps, rest)
  | '\\' :: e :: rest =>
    match simpleEscape? e with
    | none => none
    | some c => (readPieces rest).map fun (ps, rest) ↦ (.char c :: ps, rest)
  | c :: rest =>
    if c = '\\' || c.toNat < 0x20 then none
    else (readPieces rest).map fun (ps, rest) ↦ (.char c :: ps, rest)
  | [] => none

/-- Joins halves of surrogate pairs, a high one with the low one right after it. -/
def joinHalves : List Piece → Content
  | [] => some []
  | .char c :: ps => (joinHalves ps).map (c :: ·)
  | .half high :: .half low :: ps =>
    if high < 0xDC00 && 0xDC00 ≤ low then
      (joinHalves ps).map
        (Char.ofNat (0x10000 + (high - 0xD800) * 0x400 + (low - 0xDC00)) :: ·)
    else none
  | .half _ :: _ => none

def readString (s : Text) : Option (Content × Text) :=
  (readPieces s).map fun (ps, rest) ↦ (joinHalves ps, rest)

mutual

def readValue : Nat → Text → Option (Value × Text)
  | 0, _ => none
  | fuel + 1, s =>
    match skipBlanks s with
    | '"' :: s => (readString s).map fun (content, rest) ↦ (.string content, rest)
    | '[' :: s =>
      match skipBlanks s with
      | ']' :: rest => some (.array [], rest)
      | s => (readItems fuel s).map fun (vs, rest) ↦ (.array vs, rest)
    | '\x7b' :: s =>
      match skipBlanks s with
      | '\x7d' :: rest => some (.object [], rest)
      | s => (readFields fuel s).map fun (fs, rest) ↦ (.object fs, rest)
    | 'n' :: s => (stripWord "ull".toList s).map fun rest ↦ (.null, rest)
    | 't' :: s => (stripWord "rue".toList s).map fun rest ↦ (.bool true, rest)
    | 'f' :: s => (stripWord "alse".toList s).map fun rest ↦ (.bool false, rest)
    | s => readNumber s

def readItems : Nat → Text → Option (List Value × Text)
  | 0, _ => none
  | fuel + 1, s =>
    match readValue fuel s with
    | none => none
    | some (v, s) =>
      match skipBlanks s with
      | ',' :: s => (readItems fuel s).map fun (vs, rest) ↦ (v :: vs, rest)
      | ']' :: rest => some ([v], rest)
      | _ => none

def readFields : Nat → Text → Option (List (Content × Value) × Text)
  | 0, _ => none
  | fuel + 1, s =>
    match skipBlanks s with
    | '"' :: s =>
      match readString s with
      | none => none
      | some (key, s) =>
        match skipBlanks s with
        | ':' :: s =>
          match readValue fuel s with
          | none => none
          | some (v, s) =>
            match skipBlanks s with
            | ',' :: s => (readFields fuel s).map fun (fs, rest) ↦ ((key, v) :: fs, rest)
            | '\x7d' :: rest => some ([(key, v)], rest)
            | _ => none
        | _ => none
    | _ => none

end

/-- The value a whole text writes. Each bracket costs two calls and a character, so twice the
length is enough. -/
def read? (s : Text) : Option Value :=
  match readValue (2 * s.length + 2) s with
  | some (v, rest) => if (skipBlanks rest).isEmpty then some v else none
  | none => none

end PpiDump.Json
