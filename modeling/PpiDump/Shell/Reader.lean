import PpiDump.Shell.Reading

namespace PpiDump.Shell

inductive Place where
  | word
  | quotes
  | braces (quoted : Bool)
  | bracesTo (quoted : Bool) (stop : Char)
  | expression (depth : Nat)
  | index (depth : Nat)
  | whole
  deriving DecidableEq, Repr

namespace Place

def isQuoted : Place → Bool
  | quotes | expression _ | whole => true
  | braces quoted | bracesTo quoted _ => quoted
  | word | index _ => false

def isBraces : Place → Bool
  | braces _ | bracesTo .. => true
  | _ => false

def stopsAt (c : Char) : Place → Bool
  | bracesTo _ stop => c = stop
  | _ => false

end Place

def wordEnds : List Char := " \t\n;&|<>()".toList

def isNotable (p : Place) (c : Char) : Bool :=
  c = '\\' || c = '$' || c = '\x60' || c = '\'' || c = '"' || c = '\n' || c = '\x7d' || c = '(' ||
    c = ')' || c = '[' || c = ']' || p.stopsAt c ||
    (p = .word && (wordEnds.contains c || c = '\x7b' || c = ','))

def isEscapable (p : Place) (c : Char) : Bool :=
  c = '\\' || c = '$' || c = '\x60' || (c = '"' && p ≠ .whole) || (c = '\x7d' && p.isBraces)

def specialParameters : List Char := "@*#?$!-".toList

def splitBackquoted (quoted : Bool) : Text → Option (Text × Text)
  | [] => none
  | '\x60' :: rest => some ([], rest)
  | '\\' :: c :: rest =>
    (splitBackquoted quoted rest).map fun (t, rest) ↦
      (if c = '\n' then t
        else if c = '\\' || c = '\x60' || c = '$' || (quoted && c = '"') then c :: t
        else '\\' :: c :: t, rest)
  | c :: rest => (splitBackquoted quoted rest).map fun (t, rest) ↦ (c :: t, rest)

def digitValue? (base : Nat) (c : Char) : Option Nat :=
  let v :=
    if c.isDigit then c.toNat - '0'.toNat
    else if 'a' ≤ c && c ≤ 'z' then c.toNat - 'a'.toNat + 10
    else if 'A' ≤ c && c ≤ 'Z' then c.toNat - 'A'.toNat + 10
    else base
  if v < base then some v else none

def readDigits (base count : Nat) (t : Text) : Nat × Text :=
  let ds := (t.take count).takeWhile fun c ↦ (digitValue? base c).isSome
  (ds.foldl (fun n c ↦ n * base + (digitValue? base c).getD 0) 0, t.drop ds.length)

def charBytes (n : Nat) : Text := Bytes.toChars (Utf8Char n)
where
  Utf8Char (n : Nat) : Bytes :=
    let tail (k : Nat) : UInt8 := UInt8.ofNat (0x80 + n / Nat.pow 64 k % 64)
    if n < 0x80 then [UInt8.ofNat n]
    else if n < 0x800 then [UInt8.ofNat (0xC0 + n / 64), tail 0]
    else if n < 0x10000 then [UInt8.ofNat (0xE0 + n / 4096), tail 1, tail 0]
    else [UInt8.ofNat (0xF0 + n / 262144), tail 2, tail 1, tail 0]

def readEscapedQuotes : Nat → Text → Option (Text × Text)
  | 0, _ => none
  | fuel + 1, s =>
    match s with
    | [] => none
    | '\'' :: rest => some ([], rest)
    | '\\' :: c :: rest =>
      let plain (t : Text) (rest : Text) : Option (Text × Text) :=
        (readEscapedQuotes fuel rest).map fun (u, rest) ↦ (t ++ u, rest)
      match ("abefnrtv".toList.zip "\x07\x08\x1b\x0c\n\r\t\x0b".toList).find? (·.1 = c) with
      | some (_, v) => plain [v] rest
      | none =>
        if c = 'E' then plain ['\x1b'] rest
        else if "\\'\"?".toList.contains c then plain [c] rest
        else if c = 'x' then
          let (n, rest') := readDigits 16 2 rest
          if rest'.length = rest.length then plain ['\\', 'x'] rest
          else plain [Char.ofNat n] rest'
        else if c = 'u' || c = 'U' then
          let (n, rest') := readDigits 16 (if c = 'u' then 4 else 8) rest
          if rest'.length = rest.length then plain ['\\', c] rest else plain (charBytes n) rest'
        else if (digitValue? 8 c).isSome then
          let (n, rest') := readDigits 8 3 (c :: rest)
          plain [Char.ofNat (n % 256)] rest'
        else if c = 'c' then
          match rest with
          | d :: rest => plain [Char.ofNat (d.toUpper.toNat % 32)] rest
          | [] => none
        else plain ['\\', c] rest
    | c :: rest => (readEscapedQuotes fuel rest).map fun (u, rest) ↦ (c :: u, rest)

def unquote : Text → Text × Bool
  | [] => ([], false)
  | '\\' :: c :: rest => let (t, _) := unquote rest; (c :: t, true)
  | c :: rest =>
    let (t, had) := unquote rest
    if c = '\'' || c = '"' then (t, true) else (c :: t, had)

/-- The lines of an input in the script up to the one that ends it, and what follows that. With
expansions, a line that ends in a backslash goes on in the next. -/
def splitInput (a : Announced) : Nat → Bool → Text → Text × Text
  | 0, _, s => (s, [])
  | fuel + 1, joined, s =>
    let line := (s.takeWhile (· ≠ '\n')).dropWhile fun c ↦ a.skipsTabs && c = '\t'
    let rest := s.dropWhile (· ≠ '\n')
    if line = a.stop && !joined then ([], rest.drop 1)
    else if rest.isEmpty then (line, [])
    else
      let slashes := (line.reverse.takeWhile (· = '\\')).length
      let (before, after) := splitInput a fuel (a.expands && slashes % 2 = 1) (rest.drop 1)
      (line ++ '\n' :: before, after)

def series? (t : Text) : Option (List Text) :=
  match (Text.splitOn '.' t).filter (!·.isEmpty) with
  | [a, b] =>
    if t ≠ a ++ ['.', '.'] ++ b then none
    else
      match integer? a, integer? b, a, b with
      | some m, some n, _, _ =>
        let count := (n - m).natAbs + 1
        some ((List.range count).map fun (i : Nat) ↦
          writeInteger (if m ≤ n then m + i else m - i))
      | _, _, [c], [d] =>
        if c.isAlpha && d.isAlpha then
          let m : Int := c.toNat
          let n : Int := d.toNat
          let count := (n - m).natAbs + 1
          some ((List.range count).map fun (i : Nat) ↦
            [Char.ofNat (if m ≤ n then m + i else m - i).toNat])
        else none
      | _, _, _, _ => none
  | _ => none
where
  integer? (t : Text) : Option Int :=
    match t with
    | '-' :: ds => if isNumeral ds then some (-(Text.ofDigits ds : Int)) else none
    | ds => if isNumeral ds then some (Text.ofDigits ds) else none
  writeInteger (n : Int) : Text :=
    if n < 0 then '-' :: Text.ofNat n.natAbs else Text.ofNat n.natAbs

def indexed? (t : Text) (_parts : List Part) : Option (Text × Text × Bool × Text) :=
  let name := t.takeWhile isNameChar
  match t.drop name.length with
  | '[' :: rest =>
    let index := rest.takeWhile (· ≠ ']')
    match isName name, rest.drop index.length with
    | true, ']' :: '=' :: value => some (name, index, false, value)
    | true, ']' :: '+' :: '=' :: value => some (name, index, true, value)
    | _, _ => none
  | _ => none

namespace Reader

def operators (extended : Bool) : List (String × Operator) :=
  (if extended then [(";;&", .armFollow), (";&", .armFollow), ("|&", .pipeBoth)] else []) ++
    [(";;", .armEnd), (";", .semicolon), ("&&", .and), ("&", .ampersand), ("||", .or),
      ("|", .pipe), ("(", .opening), (")", .closing)]

def redirections (extended : Bool) : List (String × Nat × RedirectMode) :=
  (if extended then
      [("<<<", 0, .line), ("&>>", 1, .together true), ("&>", 1, .together false)]
    else []) ++
    [("<<-", 0, .here 1), ("<<", 0, .here 0), ("<&", 0, .duplicate), ("<>", 0, .both),
      ("<", 0, .read), (">>", 1, .append), (">&", 1, .duplicate), (">|", 1, .force),
      (">", 1, .write)]

def startingWith {α : Type} (t : Text) (l : List (String × α)) : Option (String × α) :=
  l.find? fun e ↦ e.1.toList.isPrefixOf t

def settingStart? (t : Text) : Option (Text × Bool × Text) :=
  let name := t.takeWhile isNameChar
  match name, t.drop name.length with
  | c :: _, '=' :: value => if isNameStart c then some (name, false, value) else none
  | c :: _, '+' :: '=' :: value => if isNameStart c then some (name, true, value) else none
  | _, _ => none

def unaryConditions : List String :=
  ["-e", "-f", "-d", "-r", "-w", "-x", "-s", "-L", "-h", "-p", "-S", "-b", "-c", "-t", "-u", "-g",
    "-k", "-O", "-G", "-n", "-z", "-v", "-a", "-N"]

def binaryConditions : List String :=
  ["=", "==", "!=", "=~", "-eq", "-ne", "-lt", "-le", "-gt", "-ge", "-nt", "-ot", "-ef"]

def unexpected {α : Type} (t : Token) (expected : Option String) : Reader α :=
  fail (t.describe true ++ " unexpected".toList ++
    match expected with
    | some e => " (expecting ".toList ++ e.toList ++ [')']
    | none => [])

def unexpectedInside {α : Type} (t : Token) : Reader α :=
  fail (t.describe false ++ " unexpected (expecting \")\")".toList)

def simplyQuoted (s : String) : String := "\"" ++ s ++ "\""

def enterAlias (t : Token) : Reader Bool := do
  let s ← get
  let name? := match t with
    | .word w => w.plain?
    | _ => none
  match name?.bind fun name ↦ s.aliases.find? (·.1 = name) with
  | none => return false
  | some (name, value) =>
    let left := s.rest.length
    if s.guards.any fun g ↦ g.1 = name && g.2 < left then return false
    else
      set { s with
        held := none, rest := value ++ s.rest, guards := (name, left) :: s.guards
        aliasEnd := if value.getLast?.any isBlank then some left else s.aliasEnd }
      return true

mutual

def readDollar : Nat → Place → Reader Part
  | 0, _ => fail "too deep".toList
  | fuel + 1, place => do
    let quoted := place.isQuoted
    let extended ← isExtended
    match ← peek with
    | some '(' =>
      drop 1
      if (← peek) = some '(' then
        drop 1
        return .arithmetic quoted (← readParts fuel (.expression 0) [])
      else return .output quoted (← readEnclosed fuel)
    | some '\x7b' =>
      drop 1
      readBraces fuel place
    | some '\'' =>
      if extended && !quoted then
        match readEscapedQuotes ((← peekText).length + 1) ((← peekText).drop 1) with
        | some (t, rest) =>
          drop ((← peekText).length - rest.length)
          return .text true t
        | none => fail "Unterminated quoted string".toList
      else return .text quoted ['$']
    | some c =>
      if isNameStart c then return .parameter quoted (← takeWhile isNameChar) .value
      else if c.isDigit || specialParameters.contains c then
        drop 1
        return .parameter quoted [c] .value
      else return .text quoted ['$']
    | none => return .text quoted ['$']
termination_by structural n => n

def readEnclosed : Nat → Reader (List Command)
  | 0 => fail "too deep".toList
  | fuel + 1 => do
    let before ← get
    set { before with announced := [], held := none }
    let cs ← readList fuel true
    match ← takeToken fuel with
    | .operator .closing =>
      modify fun s ↦ { s with announced := before.announced }
      return cs
    | t => unexpected t (some (simplyQuoted ")"))
termination_by structural n => n

def readBraces : Nat → Place → Reader Part
  | 0, _ => fail "too deep".toList
  | fuel + 1, place => do
    let quoted := place.isQuoted
    let extended ← isExtended
    let invalid : Reader Part := do
      let _ ← readParts fuel (.braces quoted) []
      return .parameter quoted [] .invalid
    let readName : Reader (Option Text) := do
      match ← peek with
      | some c =>
        if isNameStart c then
          let name ← takeWhile isNameChar
          if extended && (← peek) = some '[' then
            drop 1
            let index ← takeWhile (· ≠ ']')
            drop 1
            return some (name ++ '[' :: index ++ [']'])
          else return some name
        else if c.isDigit then return some (← takeWhile Char.isDigit)
        else if specialParameters.contains c then
          drop 1
          return some [c]
        else return none
      | none => return none
    let isEnd : Reader Bool := return (← peek) = some '\x7d'
    let readUse (name : Text) : Reader Part := do
      let done (u : Use) : Part := .parameter quoted name u
      match ← peekText with
      | '\x7d' :: _ =>
        drop 1
        return done .value
      | ':' :: c :: _ =>
        if "-=?+".toList.contains c then
          drop 2
          let w ← readParts fuel (.braces quoted) []
          return done (if c = '-' then .otherwise true w else if c = '=' then .assigned true w
            else if c = '?' then .required true w else .replaced true w)
        else if extended then
          drop 1
          let start ← readParts fuel (.bracesTo true ':') []
          if (← peek) = some ':' then
            drop 1
            return done (.slice start (some (← readParts fuel (.braces true) [])))
          else
            drop 1
            return done (.slice start none)
        else invalid
      | '-' :: _ =>
        drop 1
        return done (.otherwise false (← readParts fuel (.braces quoted) []))
      | '=' :: _ =>
        drop 1
        return done (.assigned false (← readParts fuel (.braces quoted) []))
      | '?' :: _ =>
        drop 1
        return done (.required false (← readParts fuel (.braces quoted) []))
      | '+' :: _ =>
        drop 1
        return done (.replaced false (← readParts fuel (.braces quoted) []))
      | c :: rest =>
        if c = '#' || c = '%' then
          let longest := rest.head? = some c
          drop (if longest then 2 else 1)
          return done (.trimmed (c = '%') longest (← readParts fuel (.braces false) []))
        else if extended && c = '/' then
          let (spot, n) : Spot × Nat := match rest with
            | '/' :: _ => (.every, 2)
            | '#' :: _ => (.start, 2)
            | '%' :: _ => (.finish, 2)
            | _ => (.first, 1)
          drop n
          let pattern ← readParts fuel (.bracesTo false '/') []
          if (← peek) = some '/' then
            drop 1
            return done (.changed spot pattern (← readParts fuel (.braces quoted) []))
          else
            drop 1
            return done (.changed spot pattern [])
        else if extended && (c = '^' || c = ',') then
          let letters : Letters := if rest.head? = some c then .all else .first
          let _ ← readParts fuel (.braces quoted) []
          return done (if c = '^' then .upper letters else .lower letters)
        else
          modify fun s ↦ { s with rest := s.rest.drop 1 }
          invalid
      | [] => invalid
    match ← peekText with
    | '#' :: '\x7d' :: _ =>
      drop 2
      return .parameter quoted ['#'] .value
    | '#' :: c :: rest =>
      if isNameChar c || specialParameters.contains c then
        let after := if isNameStart c then
            let name := (c :: rest).takeWhile isNameChar
            let others := (c :: rest).drop name.length
            if extended && others.head? = some '[' then
              (others.dropWhile (· ≠ ']')).drop 1
            else others
          else if c.isDigit then (c :: rest).dropWhile Char.isDigit
          else rest
        if after.head? = some '\x7d' then
          drop 1
          match ← readName with
          | some name =>
            drop 1
            return .parameter quoted name .length
          | none => invalid
        else if isNameChar c then invalid
        else
          drop 1
          readUse ['#']
      else
        drop 1
        readUse ['#']
    | '!' :: c :: _ =>
      if extended && isNameStart c then
        drop 1
        match ← readName with
        | some name =>
          if ← isEnd then
            drop 1
            return .parameter quoted name .indirect
          else invalid
        | none => invalid
      else
        drop 1
        readUse ['!']
    | _ =>
      match ← readName with
      | some name => readUse name
      | none => invalid
termination_by structural n => n

/-- Parts up to where the place ends. What is read so far comes last part first. -/
def readParts : Nat → Place → List Part → Reader (List Part)
  | 0, _, _ => fail "too deep".toList
  | fuel + 1, place, done => do
    let quoted := place.isQuoted
    let add (p : Part) : Reader (List Part) := readParts fuel place (p :: done)
    let finish : Reader (List Part) := return done.reverse
    match ← peekText with
    | [] =>
      match place with
      | .word | .whole => finish
      | .expression _ => fail "Missing '))'".toList
      | .quotes => fail "Unterminated quoted string".toList
      | .index _ => fail "Missing ']'".toList
      | .braces quoted | .bracesTo quoted _ =>
        if quoted then fail "Unterminated quoted string".toList else fail "Missing '\x7d'".toList
    | c :: rest =>
      match c, place with
      | '\\', _ =>
        match rest with
        | [] =>
          drop 1
          add (.text true ['\\'])
        | '\n' :: _ =>
          drop 2
          readParts fuel place done
        | d :: _ =>
          drop 2
          add (.text true (if quoted && !isEscapable place d then ['\\', d] else [d]))
      | '$', _ =>
        drop 1
        add (← readDollar fuel place)
      | '\x60', _ =>
        match splitBackquoted quoted rest with
        | none =>
          drop (rest.length + 1)
          fail "EOF in backquote substitution".toList
        | some (t, after) =>
          let before ← get
          set { before with rest := t, line := 1, announced := [], held := none, guards := [] }
          let cs ← readList fuel true
          modify fun s ↦
            { s with
              rest := after, announced := before.announced, held := none, guards := before.guards
              line := before.line + (rest.take (rest.length - after.length)).count '\n' }
          add (.output quoted cs)
      | '\'', _ =>
        if quoted then
          drop 1
          add (.text true ['\''])
        else
          let inside := rest.takeWhile (· ≠ '\'')
          if inside.length = rest.length then
            drop (rest.length + 1)
            fail "Unterminated quoted string".toList
          else
            drop (inside.length + 2)
            add (.text true inside)
      | '"', .whole | '"', .expression _ =>
        drop 1
        add (.text true ['"'])
      | '"', .quotes =>
        drop 1
        finish
      | '"', _ =>
        drop 1
        let ps ← readParts fuel .quotes []
        readParts fuel place ((if ps.isEmpty then [.text true []] else ps.reverse) ++ done)
      | '\x7d', .braces _ =>
        drop 1
        finish
      | '\x7d', .bracesTo .. => finish
      | '(', .expression depth =>
        drop 1
        readParts fuel (.expression (depth + 1)) (.text true ['('] :: done)
      | ')', .expression (depth + 1) =>
        drop 1
        readParts fuel (.expression depth) (.text true [')'] :: done)
      | ')', .expression 0 =>
        drop 1
        if (← peek) = some ')' then
          drop 1
          finish
        else add (.text true [')'])
      | '[', .index depth =>
        drop 1
        readParts fuel (.index (depth + 1)) (.text false ['['] :: done)
      | ']', .index (depth + 1) =>
        drop 1
        readParts fuel (.index depth) (.text false [']'] :: done)
      | ']', .index 0 =>
        drop 1
        finish
      | c, place =>
        if (place = .word && wordEnds.contains c) || place.stopsAt c then finish
        else if c = '\x7b' && place = .word && (← isExtended) then
          match ← readChoices? fuel with
          | some p => add p
          | none =>
            drop 1
            add (.text false ['\x7b'])
        else
          let t := c :: rest.takeWhile (!isNotable place ·)
          drop t.length
          match done with
          | .text q u :: before =>
            if q = quoted && place = .word then
              readParts fuel place (.text q (u ++ t) :: before)
            else add (.text quoted t)
          | _ => add (.text quoted t)
termination_by structural n => n

/-- Alternatives in braces: words with commas between them, or two ends of a series. Nothing is
taken where there are none. -/
def readChoices? : Nat → Reader (Option Part)
  | 0 => return none
  | fuel + 1 => do
    let before ← get
    let inside := (before.rest.drop 1).takeWhile fun c ↦ !" \t\n;&|<>()".toList.contains c
    let literal := inside.takeWhile (· ≠ '\x7d')
    if literal.length = inside.length then return none
    else
      match series? literal with
      | some ts =>
        drop (literal.length + 2)
        return some (.choices (ts.map fun t ↦ [.text false t]))
      | none =>
        drop 1
        let ws ← readAlternatives fuel []
        match ws with
        | some (w :: w' :: ws) => return some (.choices (w :: w' :: ws))
        | _ =>
          set before
          return none
termination_by structural n => n

def readAlternatives : Nat → List Word → Reader (Option (List Word))
  | 0, _ => return none
  | fuel + 1, done => do
    let w ← readAlternative fuel []
    match ← peekText with
    | ',' :: _ =>
      drop 1
      readAlternatives fuel (w :: done)
    | '\x7d' :: _ =>
      drop 1
      return some (w :: done).reverse
    | _ => return none
termination_by structural n => n

def readAlternative : Nat → List Part → Reader Word
  | 0, _ => return []
  | fuel + 1, done => do
    match ← peekText with
    | [] => return done.reverse
    | c :: rest =>
      if c = ',' || c = '\x7d' || wordEnds.contains c then return done.reverse
      else if c = '\x7b' then
        match ← readChoices? fuel with
        | some p => readAlternative fuel (p :: done)
        | none =>
          drop 1
          readAlternative fuel (.text false ['\x7b'] :: done)
      else if c = '$' then
        drop 1
        let p ← readDollar fuel .word
        readAlternative fuel (p :: done)
      else if c = '"' then
        drop 1
        let ps ← readParts fuel .quotes []
        readAlternative fuel ((if ps.isEmpty then [.text true []] else ps.reverse) ++ done)
      else if c = '\'' then
        let t := rest.takeWhile (· ≠ '\'')
        drop (t.length + 2)
        readAlternative fuel (.text true t :: done)
      else if c = '\\' then
        drop 2
        readAlternative fuel (.text true (rest.take 1) :: done)
      else
        drop 1
        readAlternative fuel (.text false [c] :: done)
termination_by structural n => n

def takeInputs : Nat → Reader Unit
  | 0 => return
  | fuel + 1 => do
    let s ← get
    match s.announced with
    | [] => return
    | a :: announced =>
      let (inside, rest) := splitInput a (s.rest.length + 1) false s.rest
      let w ← if a.expands then do
          set { s with rest := inside, announced := [], held := none, guards := [] }
          readParts fuel .whole []
        else pure [.text true inside]
      modify fun now ↦
        { now with
          rest, announced, held := none, guards := s.guards
          line := s.line + (s.rest.take (s.rest.length - rest.length)).count '\n'
          inputs := (a.number, .text true [] :: w) :: now.inputs }
      takeInputs fuel
termination_by structural n => n

def readToken : Nat → Reader Token
  | 0 => fail "too deep".toList
  | fuel + 1 => do
    let extended ← isExtended
    let _ ← takeWhile isBlank
    match ← peek with
    | none =>
      takeInputs fuel
      return .ending
    | some '\n' =>
      drop 1
      takeInputs fuel
      return .newline
    | some '#' =>
      let _ ← takeWhile (· ≠ '\n')
      readToken fuel
    | some c =>
      if isBlank c then readToken fuel
      else
        let t ← peekText
        let numbered := c.isDigit && ((t.drop 1).head? = some '<' || (t.drop 1).head? = some '>')
        let t' := if numbered then t.drop 1 else t
        match startingWith t' (redirections extended) with
        | some (s, descriptor, mode) =>
          drop (s.length + if numbered then 1 else 0)
          return .redirect (if numbered then c.toNat - '0'.toNat else descriptor) mode
        | none =>
          match startingWith t (operators extended) with
          | some (s, o) =>
            drop s.length
            return .operator o
          | none => return .word (← readParts fuel .word [])
termination_by structural n => n

def peekToken : Nat → Reader Token
  | 0 => fail "too deep".toList
  | fuel + 1 => do
    match (← get).held with
    | some t => return t
    | none =>
      let t ← readToken fuel
      modify fun s ↦ { s with held := some t }
      return t
termination_by structural n => n

def takeToken : Nat → Reader Token
  | 0 => fail "too deep".toList
  | fuel + 1 => do
    let t ← peekToken fuel
    modify fun s ↦ { s with held := none }
    return t
termination_by structural n => n

/-- The next token where a command may begin: an alias there stands for its text, unless it has the
name of a reserved word. -/
def peekCommand : Nat → Reader Token
  | 0 => fail "too deep".toList
  | fuel + 1 => do
    let t ← peekToken fuel
    if Token.reserved.any t.isReserved || !(← enterAlias t) then return t else peekCommand fuel
termination_by structural n => n

def peekWord : Nat → Reader Token
  | 0 => fail "too deep".toList
  | fuel + 1 => do
    let before ← get
    let t ← peekToken fuel
    let now := (← get).rest.length
    let crossed : Bool := before.held.isNone &&
      before.aliasEnd.any fun n ↦ n < before.rest.length && now < n
    if crossed && (← enterAlias t) then peekWord fuel else return t
termination_by structural n => n

def skipNewlines : Nat → Reader Unit
  | 0 => return
  | fuel + 1 => do
    match ← peekToken fuel with
    | .newline =>
      let _ ← takeToken fuel
      skipNewlines fuel
    | _ => return
termination_by structural n => n

def expect : Nat → String → Reader Unit
  | 0, _ => fail "too deep".toList
  | fuel + 1, s => do
    let t ← takeToken fuel
    if t.isReserved s then return else unexpected t (some (simplyQuoted s))
termination_by structural n => n

def readTarget : Nat → Nat → RedirectMode → Reader Redirect
  | 0, _, _ => fail "too deep".toList
  | fuel + 1, descriptor, mode => do
    let before ← get
    let t ← takeToken fuel
    let after ← get
    match t with
    | .word w =>
      match mode with
      | .here tabs =>
        let written := before.rest.take (before.rest.length - after.rest.length)
        let (stop, hadQuotes) := unquote (trimBlanks written)
        let a : Announced := ⟨after.nextInput, stop, !hadQuotes, tabs = 1⟩
        modify fun s ↦
          { s with announced := s.announced ++ [a], nextInput := s.nextInput + 1 }
        return .mk descriptor (.here a.number) []
      | mode => return .mk descriptor mode w
    | t => unexpected t none
termination_by structural n => n

def readRedirects : Nat → List Redirect → Reader (List Redirect)
  | 0, _ => fail "too deep".toList
  | fuel + 1, done => do
    match ← peekToken fuel with
    | .redirect descriptor mode =>
      let _ ← takeToken fuel
      let r ← readTarget fuel descriptor mode
      readRedirects fuel (r :: done)
    | _ => return done.reverse
termination_by structural n => n

def readList : Nat → Bool → Reader (List Command)
  | 0, _ => fail "too deep".toList
  | fuel + 1, mayBeEmpty => do
    skipNewlines fuel
    let t ← peekCommand fuel
    let extended ← isExtended
    let ends : Bool := match t with
      | .ending => mayBeEmpty || !extended
      | _ => mayBeEmpty
    if t.endsList then
      if ends then return [] else unexpected t none
    else
      let c ← readChain fuel
      let more (c : Command) : Reader (List Command) := do
        let _ ← takeToken fuel
        return c :: (← readList fuel true)
      match ← peekToken fuel with
      | .operator .semicolon => more c
      | .newline => more c
      | .operator .ampersand => more (.background c)
      | _ => return [c]
termination_by structural n => n

def readLineFrom : Nat → List Command → Reader (List Command)
  | 0, _ => fail "too deep".toList
  | fuel + 1, done => do
    let c ← readChain fuel
    match ← takeToken fuel with
    | .newline | .ending => return (c :: done).reverse
    | .operator .semicolon => nextOfLine fuel (c :: done)
    | .operator .ampersand => nextOfLine fuel (.background c :: done)
    | t => unexpected t none
termination_by structural n => n

def nextOfLine : Nat → List Command → Reader (List Command)
  | 0, _ => fail "too deep".toList
  | fuel + 1, done => do
    match ← peekCommand fuel with
    | .newline | .ending =>
      let _ ← takeToken fuel
      return done.reverse
    | _ => readLineFrom fuel done
termination_by structural n => n

def readChain : Nat → Reader Command
  | 0 => fail "too deep".toList
  | fuel + 1 => do
    let first ← readPipeline fuel
    readMore fuel first
termination_by structural n => n

def readMore : Nat → Command → Reader Command
  | 0, _ => fail "too deep".toList
  | fuel + 1, first => do
    match ← peekToken fuel with
    | .operator .and =>
      let _ ← takeToken fuel
      skipNewlines fuel
      readMore fuel (.both first (← readPipeline fuel))
    | .operator .or =>
      let _ ← takeToken fuel
      skipNewlines fuel
      readMore fuel (.either first (← readPipeline fuel))
    | _ => return first
termination_by structural n => n

def readPipeline : Nat → Reader Command
  | 0 => fail "too deep".toList
  | fuel + 1 => do
    let t ← peekCommand fuel
    if t.isReserved "!" then
      let _ ← takeToken fuel
      if ← isExtended then return .negated (← readPipeline fuel)
      else return .negated (← readStages fuel [])
    else if (← isExtended) && t.isReserved "time" then
      let _ ← takeToken fuel
      readPipeline fuel
    else readStages fuel []
termination_by structural n => n

def readStages : Nat → List Command → Reader Command
  | 0, _ => fail "too deep".toList
  | fuel + 1, done => do
    let c ← readCommand fuel
    match ← peekToken fuel with
    | .operator .pipe =>
      let _ ← takeToken fuel
      skipNewlines fuel
      readStages fuel (c :: done)
    | .operator .pipeBoth =>
      let _ ← takeToken fuel
      skipNewlines fuel
      let line := (← get).line
      readStages fuel (.redirected line c [.mk 2 .duplicate [.text false ['1']]] :: done)
    | _ => return if done.isEmpty then c else .pipeline (c :: done).reverse
termination_by structural n => n

def redirected : Nat → Nat → Command → Reader Command
  | 0, _, _ => fail "too deep".toList
  | fuel + 1, line, c => do
    let rs ← readRedirects fuel []
    return if rs.isEmpty then c else .redirected line c rs
termination_by structural n => n

def readCommand : Nat → Reader Command
  | 0 => fail "too deep".toList
  | fuel + 1 => do
    let t ← peekCommand fuel
    let line := (← get).line
    let extended ← isExtended
    let take : Reader Unit := do let _ ← takeToken fuel
    match t with
    | .operator .opening =>
      if extended && (← get).rest.head? = some '(' then
        take
        drop 1
        let e ← readParts fuel (.expression 0) []
        redirected fuel line (.arithmetic line e)
      else
        take
        let cs ← readList fuel false
        match ← takeToken fuel with
        | .operator .closing => redirected fuel line (.subshell (.sequence cs))
        | t => unexpected t (some (simplyQuoted ")"))
    | .redirect .. => readSimple fuel line [] [] []
    | .word _ =>
      if t.isReserved "\x7b" then
        take
        let cs ← readList fuel false
        expect fuel "\x7d"
        redirected fuel line (.sequence cs)
      else if t.isReserved "if" then
        take
        redirected fuel line (← readBranch fuel)
      else if t.isReserved "while" || t.isReserved "until" then
        take
        let condition ← readList fuel false
        let body ← readBody fuel
        redirected fuel line (.loop (t.isReserved "until") (.sequence condition) body)
      else if t.isReserved "for" then
        take
        redirected fuel line (← readFor fuel line)
      else if t.isReserved "case" then
        take
        match ← takeToken fuel with
        | .word w =>
          skipNewlines fuel
          expect fuel "in"
          redirected fuel line (.choice line w (← readArms fuel []))
        | t => unexpected t (some "word")
      else if extended && t.isReserved "function" then
        take
        match ← takeToken fuel with
        | .word w =>
          match ← peekToken fuel with
          | .operator .opening =>
            take
            take
          | _ => pure ()
          skipNewlines fuel
          return .function (w.plain?.getD []) (← readCommand fuel)
        | t => unexpected t none
      else if extended && t.isReserved "[[" then
        take
        let c ← readCondition fuel
        let t ← takeToken fuel
        if t.isReserved "]]" then redirected fuel line (.condition line c)
        else unexpected t (some (simplyQuoted "]]"))
      else if t.endsList || t.isReserved "!" then unexpected t none
      else readSimple fuel line [] [] []
    | t => unexpected t none
termination_by structural n => n

/-- Settings, words and redirections of a simple command; what is read so far comes last part
first. A single word before parentheses is the name of a function. -/
def readSimple : Nat → Nat → List Setting → List Word → List Redirect → Reader Command
  | 0, _, _, _, _ => fail "too deep".toList
  | fuel + 1, line, settings, words, redirects => do
    let t ← if words.isEmpty then peekCommand fuel else peekWord fuel
    let extended ← isExtended
    match t with
    | .word w =>
      let _ ← takeToken fuel
      let plain : Reader Command := readSimple fuel line settings (w :: words) redirects
      if !words.isEmpty then plain
      else
        match w with
        | .text false t :: parts =>
          match settingStart? t with
          | some (name, appends, value) =>
            if appends && !extended then plain
            else if extended && value.isEmpty && parts.isEmpty && (← get).rest.head? = some '('
            then
              drop 1
              let elements ← readElements fuel []
              readSimple fuel line (.mk name none appends [] (some elements) :: settings) words
                redirects
            else
              let value := if value.isEmpty then parts else .text false value :: parts
              readSimple fuel line (.mk name none appends value none :: settings) words redirects
          | none =>
            if extended then
              match indexed? t parts with
              | some (name, index, appends, value) =>
                let value := if value.isEmpty then parts else .text false value :: parts
                readSimple fuel line
                  (.mk name (some [.text false index]) appends value none :: settings) words
                  redirects
              | none => plain
            else plain
        | _ => plain
    | .redirect descriptor mode =>
      let _ ← takeToken fuel
      let r ← readTarget fuel descriptor mode
      readSimple fuel line settings words (r :: redirects)
    | .operator .opening =>
      match words with
      | [w] =>
        if settings.isEmpty && redirects.isEmpty then
          let _ ← takeToken fuel
          match ← takeToken fuel with
          | .operator .closing =>
            match w.plain? with
            | some name =>
              if isName name || extended then
                skipNewlines fuel
                return .function name (← readCommand fuel)
              else fail "Bad function name".toList
            | none => fail "Bad function name".toList
          | t => unexpectedInside t
        else unexpected t none
      | _ => unexpected t none
    | _ => return .simple line settings.reverse words.reverse redirects.reverse
termination_by structural n => n

def readElements : Nat → List Word → Reader (List Word)
  | 0, _ => fail "too deep".toList
  | fuel + 1, done => do
    match ← takeToken fuel with
    | .word w => readElements fuel (w :: done)
    | .newline => readElements fuel done
    | .operator .closing => return done.reverse
    | t => unexpected t none
termination_by structural n => n

def readBranch : Nat → Reader Command
  | 0 => fail "too deep".toList
  | fuel + 1 => do
    let condition ← readList fuel false
    expect fuel "then"
    let yes ← readList fuel false
    let t ← takeToken fuel
    let done (no : List Command) : Command :=
      .branch (.sequence condition) (.sequence yes) (.sequence no)
    if t.isReserved "fi" then return done []
    else if t.isReserved "elif" then return done [← readBranch fuel]
    else if t.isReserved "else" then
      let no ← readList fuel false
      expect fuel "fi"
      return done no
    else unexpected t (some (simplyQuoted "fi"))
termination_by structural n => n

def readBody : Nat → Reader Command
  | 0 => fail "too deep".toList
  | fuel + 1 => do
    expect fuel "do"
    let body ← readList fuel false
    expect fuel "done"
    return .sequence body
termination_by structural n => n

def readFor : Nat → Nat → Reader Command
  | 0, _ => fail "too deep".toList
  | fuel + 1, line => do
    match ← takeToken fuel with
    | .word w =>
      match w.plain? with
      | some name =>
        if !isName name then fail "Bad for loop variable".toList
        else
          skipNewlines fuel
          let t ← peekToken fuel
          if t.isReserved "in" then
            let _ ← takeToken fuel
            let ws ← readWords fuel []
            match ← takeToken fuel with
            | .newline | .operator .semicolon =>
              skipNewlines fuel
              return .each line name (some ws) (← readBody fuel)
            | t => unexpected t none
          else
            match t with
            | .operator .semicolon =>
              let _ ← takeToken fuel
            | _ => pure ()
            skipNewlines fuel
            return .each line name none (← readBody fuel)
      | none => fail "Bad for loop variable".toList
    | .operator .opening =>
      if (← isExtended) && (← get).rest.head? = some '(' then
        drop 1
        let start ← readParts fuel (.bracesTo true ';') []
        drop 1
        let condition ← readParts fuel (.bracesTo true ';') []
        drop 1
        let next ← readParts fuel (.expression 0) []
        match ← peekToken fuel with
        | .operator .semicolon =>
          let _ ← takeToken fuel
        | _ => pure ()
        skipNewlines fuel
        let t ← peekToken fuel
        if t.isReserved "\x7b" then
          let _ ← takeToken fuel
          let body ← readList fuel false
          expect fuel "\x7d"
          return .count start condition next (.sequence body)
        else return .count start condition next (← readBody fuel)
      else fail "Bad for loop variable".toList
    | _ => fail "Bad for loop variable".toList
termination_by structural n => n

def readWords : Nat → List Word → Reader (List Word)
  | 0, _ => fail "too deep".toList
  | fuel + 1, done => do
    match ← peekToken fuel with
    | .word w =>
      let _ ← takeToken fuel
      readWords fuel (w :: done)
    | _ => return done.reverse
termination_by structural n => n

def readArms : Nat → List Arm → Reader (List Arm)
  | 0, _ => fail "too deep".toList
  | fuel + 1, done => do
    skipNewlines fuel
    let t ← takeToken fuel
    if t.isReserved "esac" then return done.reverse
    else
      let t ← match t with
        | .operator .opening => takeToken fuel
        | t => pure t
      let patterns ← readPatterns fuel t []
      let body ← readList fuel true
      skipNewlines fuel
      let t ← takeToken fuel
      let arm (follows : Bool) : Arm := .mk patterns (.sequence body) follows
      match t with
      | .operator .armEnd => readArms fuel (arm false :: done)
      | .operator .armFollow => readArms fuel (arm true :: done)
      | t =>
        if t.isReserved "esac" then return (arm false :: done).reverse
        else unexpected t (some (simplyQuoted ";;"))
termination_by structural n => n

def readPatterns : Nat → Token → List Word → Reader (List Word)
  | 0, _, _ => fail "too deep".toList
  | fuel + 1, t, done => do
    match t with
    | .word w =>
      match ← takeToken fuel with
      | .operator .pipe =>
        let t ← takeToken fuel
        readPatterns fuel t (w :: done)
      | .operator .closing => return (w :: done).reverse
      | t => unexpectedInside t
    | t =>
      if ← isExtended then unexpected t none
      else unexpectedInside (← takeToken fuel)
termination_by structural n => n

def readCondition : Nat → Reader Condition
  | 0 => fail "too deep".toList
  | fuel + 1 => do
    skipNewlines fuel
    let a ← readConditions fuel
    match ← peekToken fuel with
    | .operator .or =>
      let _ ← takeToken fuel
      return .either a (← readCondition fuel)
    | _ => return a
termination_by structural n => n

def readConditions : Nat → Reader Condition
  | 0 => fail "too deep".toList
  | fuel + 1 => do
    skipNewlines fuel
    let a ← readSingle fuel
    skipNewlines fuel
    match ← peekToken fuel with
    | .operator .and =>
      let _ ← takeToken fuel
      return .both a (← readConditions fuel)
    | _ => return a
termination_by structural n => n

def readSingle : Nat → Reader Condition
  | 0 => fail "too deep".toList
  | fuel + 1 => do
    match ← takeToken fuel with
    | .operator .opening =>
      let c ← readCondition fuel
      match ← takeToken fuel with
      | .operator .closing => return c
      | t => unexpected t none
    | .word w =>
      if w.isPlain "!" then return .negated (← readSingle fuel)
      else
        let next ← peekToken fuel
        let isOperand : Bool := match next with
          | .word v => !v.isPlain "]]" && !(binaryConditions.any v.isPlain)
          | _ => false
        if unaryConditions.any w.isPlain && isOperand then
          match ← takeToken fuel with
          | .word v => return .unary (w.plain?.getD []) v
          | t => unexpected t none
        else
          match next with
          | .word o =>
            if binaryConditions.any o.isPlain then
              let _ ← takeToken fuel
              if o.isPlain "=~" then
                let _ ← takeWhile isBlank
                let b ← readPattern fuel []
                return .binary (o.plain?.getD []) w b
              else
                match ← takeToken fuel with
                | .word b => return .binary (o.plain?.getD []) w b
                | t => unexpected t none
            else return .unary ['-', 'n'] w
          | .redirect _ .read =>
            let _ ← takeToken fuel
            match ← takeToken fuel with
            | .word b => return .binary ['<'] w b
            | t => unexpected t none
          | .redirect _ .write =>
            let _ ← takeToken fuel
            match ← takeToken fuel with
            | .word b => return .binary ['>'] w b
            | t => unexpected t none
          | _ => return .unary ['-', 'n'] w
    | t => unexpected t none
termination_by structural n => n

def readPattern : Nat → List Part → Reader Word
  | 0, _ => fail "too deep".toList
  | fuel + 1, done => do
    match ← peekText with
    | c :: _ =>
      if c = '(' || c = ')' || c = '|' || c = '<' || c = '>' || c = ';' || c = '&' then
        drop 1
        readPattern fuel (.text false [c] :: done)
      else if wordEnds.contains c then return done.reverse
      else
        let ps ← readParts fuel .word []
        readPattern fuel (ps.reverse ++ done)
    | [] => return done.reverse
termination_by structural n => n

end

/-- The commands of the next line, with all that belongs to them on the lines below; nothing at the
end of the text. -/
def nextLine : Reader (Option (List Command)) := do
  modify fun s ↦ { s with held := none }
  let fuel := 12 * (← get).rest.length + 100
  match ← peekCommand fuel with
  | .ending => return none
  | .newline =>
    let _ ← takeToken fuel
    return some []
  | _ => return some (← readLineFrom fuel [])

end Reader

end PpiDump.Shell
