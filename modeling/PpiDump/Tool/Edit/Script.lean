import PpiDump.Tool.Regex

namespace PpiDump.Tool.Edit

/-- An expression, or the one that was used last. -/
structure Pattern where
  regex? : Option Regex
  ignoreCase : Bool := false
  multiline : Bool := false

inductive Address where
  | line (n : Nat)
  | last
  | fits (p : Pattern)
  | every (first step : Nat)

inductive Finish where
  | at (a : Address)
  | after (n : Nat)
  | multiple (n : Nat)

structure Selector where
  first : Option Address := none
  finish : Option Finish := none
  negated : Bool := false

inductive Piece where
  | text (t : Text)
  | group (n : Nat)
  | casing (c : Char)

structure Substitution where
  pattern : Pattern
  pieces : List Piece
  first : Nat := 1
  every : Bool := false
  prints : Bool := false
  file : Option Text := none

inductive Action where
  | nothing
  | block (finish : Nat)
  | substitute (s : Substitution)
  | translate (table : List (Char × Char))
  | plain (letter : Char)
  | append (t : Text)
  | insert (t : Text)
  | change (t : Text)
  | jump (letter : Char) (label : Text)
  | label (name : Text)
  | quit (silent : Bool) (code : Nat)
  | readFile (path : Text)
  | writeFile (firstLine : Bool) (path : Text)

structure Instruction where
  selector : Selector := {}
  action : Action

structure Fault where
  message : Text
  rest : Text
  general : Bool := false

abbrev Read (α : Type) := Except Fault (α × Text)

def fault {α : Type} (message : String) (rest : Text) : Except Fault α :=
  .error { message := message.toList, rest }

def isBlank (c : Char) : Bool := c = ' ' || c = '\t'

def skipBlanks (t : Text) : Text := t.dropWhile isBlank

def skipGaps (t : Text) : Text := t.dropWhile fun c ↦ isBlank c || c = '\n' || c = ';'

/-- Text up to a delimiter that no backslash precedes. Inside brackets of an expression it means
nothing. -/
def readDelimited (isRegex : Bool) (delimiter : Char) : Nat → Bool → Text → Text →
    Option (Text × Text)
  | 0, _, _, _ => none
  | fuel + 1, inSet, done, t =>
    match t with
    | [] => none
    | '\\' :: c :: rest =>
      if inSet then
        if c = 'n' then readDelimited isRegex delimiter fuel inSet ('\n' :: done) rest
        else readDelimited isRegex delimiter fuel inSet ('\\' :: done) (c :: rest)
      else if c = delimiter then readDelimited isRegex delimiter fuel inSet (c :: done) rest
      else if c = 'n' && isRegex then
        readDelimited isRegex delimiter fuel inSet ('\n' :: done) rest
      else readDelimited isRegex delimiter fuel inSet (c :: '\\' :: done) rest
    | '[' :: rest =>
      if '[' = delimiter then some (done.reverse, rest)
      else if isRegex && !inSet then
        let start := match rest with
          | '^' :: ']' :: _ => rest.take 2
          | ']' :: _ => rest.take 1
          | '^' :: _ => rest.take 1
          | _ => []
        readDelimited isRegex delimiter fuel true (start.reverse ++ '[' :: done)
          (rest.drop start.length)
      else if inSet && rest.head? = some ':' then
        let name := (rest.drop 1).takeWhile (·.isAlpha)
        if ":]".toList.isPrefixOf (rest.drop (name.length + 1)) then
          let sort := rest.take (name.length + 3)
          readDelimited isRegex delimiter fuel inSet (sort.reverse ++ '[' :: done)
            (rest.drop (name.length + 3))
        else readDelimited isRegex delimiter fuel inSet ('[' :: done) rest
      else readDelimited isRegex delimiter fuel inSet ('[' :: done) rest
    | ']' :: rest =>
      if ']' = delimiter then some (done.reverse, rest)
      else readDelimited isRegex delimiter fuel false (']' :: done) rest
    | c :: rest =>
      if c = delimiter && !inSet then some (done.reverse, rest)
      else if c = '\n' && isRegex && !inSet then none
      else readDelimited isRegex delimiter fuel inSet (c :: done) rest

def delimited (isRegex : Bool) (delimiter : Char) (t : Text) : Option (Text × Text) :=
  readDelimited isRegex delimiter (t.length + 1) false [] t

def readRegex (extended : Bool) (written : Text) (rest : Text) : Except Fault (Option Regex) :=
  if written.isEmpty then .ok none
  else
    match Regex.read { extended, strict := true } written with
    | .ok r => .ok (some r)
    | .error f => .error { message := f.message, rest }

def readNumber (t : Text) : Nat × Text :=
  let ds := t.takeWhile Char.isDigit
  (Text.ofDigits ds, t.drop ds.length)

def readPatternAddress (extended : Bool) (delimiter : Char) (t : Text) :
    Except Fault (Option Address × Text) :=
  match delimited true delimiter t with
  | none => fault "unterminated address regex" []
  | some (written, rest) => do
    let flags := rest.takeWhile fun c ↦ c = 'I' || c = 'M'
    let rest := rest.drop flags.length
    let regex? ← readRegex extended written rest
    return (some (.fits ⟨regex?, flags.contains 'I', flags.contains 'M'⟩), rest)

def readAddress (extended : Bool) (t : Text) : Except Fault (Option Address × Text) :=
  match t with
  | '$' :: rest => .ok (some .last, rest)
  | '/' :: rest => readPatternAddress extended '/' rest
  | '\\' :: c :: rest => readPatternAddress extended c rest
  | c :: _ =>
    if c.isDigit then
      let (n, rest) := readNumber t
      match skipBlanks rest with
      | '~' :: rest =>
        let (step, rest) := readNumber (skipBlanks rest)
        .ok (some (.every n step), rest)
      | _ => .ok (some (.line n), rest)
    else .ok (none, t)
  | [] => .ok (none, t)

def readFinish (extended : Bool) (t : Text) : Except Fault (Finish × Text) :=
  match t with
  | '+' :: rest =>
    let (n, rest) := readNumber rest
    .ok (.after n, rest)
  | '~' :: rest =>
    let (n, rest) := readNumber rest
    .ok (.multiple n, rest)
  | t => do
    match ← readAddress extended t with
    | (some a, rest) => return (.at a, rest)
    | (none, rest) => fault "unexpected `,'" (rest.drop 1)

def readSelector (extended : Bool) (t : Text) : Except Fault (Selector × Text) := do
  let (first, rest) ← readAddress extended t
  let after := skipBlanks rest
  let (finish, rest) ← match first, after with
    | some _, ',' :: rest => do
      let (f, rest) ← readFinish extended (skipBlanks rest)
      pure (some f, skipBlanks rest)
    | none, ',' :: rest => fault "unexpected `,'" rest
    | _, _ => pure (none, after)
  match first, finish with
  | some (.line 0), some (.at (.fits _)) => pure ()
  | some (.line 0), _ => fault "invalid usage of line address 0" (rest.drop 1)
  | _, _ => pure ()
  let marks := rest.takeWhile fun c ↦ c = '!' || isBlank c
  if 1 < (marks.filter (· = '!')).length then
    fault "multiple `!'s" (rest.drop ((marks.takeWhile isBlank).length + 2))
  else return (⟨first, finish, marks.contains '!'⟩, rest.drop marks.length)

def readPieces : Nat → Text → Text → List Piece
  | 0, _, _ => []
  | fuel + 1, done, t =>
    let flush (ps : List Piece) : List Piece := if done.isEmpty then ps else .text done.reverse :: ps
    match t with
    | [] => flush []
    | '&' :: rest => flush (.group 0 :: readPieces fuel [] rest)
    | '\\' :: c :: rest =>
      if c.isDigit then flush (.group (c.toNat - '0'.toNat) :: readPieces fuel [] rest)
      else if "uUlLE".toList.contains c then flush (.casing c :: readPieces fuel [] rest)
      else
        let d := match c with
          | 'n' => '\n'
          | 't' => '\t'
          | 'r' => '\r'
          | 'f' => '\x0c'
          | 'v' => '\x0b'
          | 'a' => '\x07'
          | c => c
        readPieces fuel (d :: done) rest
    | c :: rest => readPieces fuel (c :: done) rest

def atEnd (t : Text) : Except Fault Text :=
  match skipBlanks t with
  | [] => .ok []
  | '#' :: rest => .ok ('#' :: rest)
  | '\x7d' :: rest => .ok ('\x7d' :: rest)
  | c :: rest =>
    if c = ';' || c = '\n' then .ok rest else fault "extra characters after command" rest

def restOfLine (t : Text) : Text × Text :=
  let l := t.takeWhile (· ≠ '\n')
  (l, t.drop (l.length + 1))

def readFlags : Nat → Substitution → Text → Except Fault (Substitution × Text)
  | 0, s, t => .ok (s, t)
  | fuel + 1, s, t =>
    match t with
    | 'g' :: rest =>
      if s.every then fault "multiple `g' options to `s' command" rest
      else readFlags fuel { s with every := true } rest
    | 'p' :: rest =>
      if s.prints then fault "multiple `p' options to `s' command" rest
      else readFlags fuel { s with prints := true } rest
    | 'i' :: rest | 'I' :: rest =>
      readFlags fuel { s with pattern := { s.pattern with ignoreCase := true } } rest
    | 'm' :: rest | 'M' :: rest =>
      readFlags fuel { s with pattern := { s.pattern with multiline := true } } rest
    | 'w' :: rest =>
      let (path, rest) := restOfLine (skipBlanks rest)
      .ok ({ s with file := some path }, rest)
    | c :: rest =>
      if c.isDigit then
        let (n, rest) := readNumber t
        if n = 0 then fault "number option to `s' command may not be zero" rest
        else readFlags fuel { s with first := n } rest
      else if isBlank c || c = ';' || c = '\n' || c = '#' || c = '\x7d' then
        (atEnd t).map (s, ·)
      else fault "unknown option to `s'" rest
    | [] => .ok (s, [])

def countGroups (extended : Bool) : Text → Nat
  | [] => 0
  | '\\' :: c :: rest => (if !extended && c = '(' then 1 else 0) + countGroups extended rest
  | c :: rest => (if extended && c = '(' then 1 else 0) + countGroups extended rest

def readSubstitution (extended : Bool) (t : Text) : Except Fault (Action × Text) :=
  match t with
  | [] => fault "unterminated `s' command" []
  | delimiter :: rest =>
    match delimited true delimiter rest with
    | none => fault "unterminated `s' command" []
    | some (written, rest) =>
      match delimited false delimiter rest with
      | none => fault "unterminated `s' command" []
      | some (new, rest) => do
        let regex? ← readRegex extended written rest
        let pieces := readPieces (new.length + 1) [] new
        let (s, rest) ← readFlags (rest.length + 1) { pattern := ⟨regex?, false, false⟩, pieces } rest
        let groups := countGroups extended written
        match pieces.findSome? fun
            | .group n => if groups < n && regex?.isSome then some n else none
            | _ => none with
        | some n =>
          .error {
            message := "invalid reference \\".toList ++ Text.ofNat n ++
              " on `s' command's RHS".toList
            rest }
        | none => return (.substitute s, rest)

def plainChars : Text → Text
  | [] => []
  | '\\' :: 'n' :: rest => '\n' :: plainChars rest
  | '\\' :: '\\' :: rest => '\\' :: plainChars rest
  | '\\' :: 't' :: rest => '\t' :: plainChars rest
  | c :: rest => c :: plainChars rest

def readTranslation (t : Text) : Except Fault (Action × Text) :=
  match t with
  | [] => fault "unterminated `y' command" []
  | delimiter :: rest =>
    match delimited false delimiter rest with
    | none => fault "unterminated `y' command" []
    | some (old, rest) =>
      match delimited false delimiter rest with
      | none => fault "unterminated `y' command" []
      | some (new, rest) => do
        let old := plainChars old
        let new := plainChars new
        if old.length ≠ new.length then
          fault "strings for `y' command are different lengths" rest
        else
          let rest ← atEnd rest
          return (.translate (old.zip new), rest)

def readText : Nat → Text → Text → Text × Text
  | 0, done, t => (done.reverse, t)
  | fuel + 1, done, t =>
    match t with
    | [] => (done.reverse, [])
    | '\n' :: rest => (done.reverse, rest)
    | '\\' :: c :: rest =>
      readText fuel ((if c = 't' then '\t' else if c = 'n' then '\n' else c) :: done) rest
    | c :: rest => readText fuel (c :: done) rest

def readInserted (t : Text) : Except Fault (Text × Text) :=
  let t := skipBlanks t
  let body : Option Text := match t with
    | [] => none
    | '\\' :: rest =>
      match skipBlanks rest with
      | '\n' :: rest => some rest
      | _ => some rest
    | t => some t
  match body with
  | none | some [] => fault "expected \\ after `a', `c' or `i'" []
  | some body =>
    let (text, rest) := readText (body.length + 1) [] body
    .ok (text ++ ['\n'], rest)

def readLabel (t : Text) : Text × Text :=
  let t := skipBlanks t
  let name := t.takeWhile fun c ↦ c ≠ '\n' && c ≠ ';' && c ≠ '\x7d' && !isBlank c
  (name, t.drop name.length)

def plainLetters : Text := "=dDgGhHnNpPxzF".toList

def readAction (extended : Bool) (selector : Selector) (t : Text) : Except Fault (Action × Text) :=
  match t with
  | [] => fault "missing command" []
  | c :: rest =>
    if plainLetters.contains c then (atEnd rest).map (.plain c, ·)
    else
      match c with
      | 's' => readSubstitution extended rest
      | 'y' => readTranslation rest
      | 'a' => (readInserted rest).map fun (t, rest) ↦ (.append t, rest)
      | 'i' => (readInserted rest).map fun (t, rest) ↦ (.insert t, rest)
      | 'c' => (readInserted rest).map fun (t, rest) ↦ (.change t, rest)
      | ':' =>
        if selector.first.isSome then fault ": doesn't want any addresses" rest
        else
          let t := skipBlanks rest
          let name := t.takeWhile fun c ↦ c ≠ '\n' && c ≠ ';' && !isBlank c
          if name.isEmpty then fault "\":\" lacks a label" rest
          else .ok (.label name, t.drop name.length)
      | 'l' =>
        let rest := (skipBlanks rest).dropWhile Char.isDigit
        (atEnd rest).map (.plain 'l', ·)
      | 'r' | 'R' | 'w' | 'W' =>
        let (path, after) := restOfLine (skipBlanks rest)
        if path.isEmpty then fault "missing filename in r/R/w/W commands" rest
        else .ok (if c = 'r' || c = 'R' then .readFile path else .writeFile (c = 'W') path, after)
      | 'q' | 'Q' =>
        if selector.finish.isSome then fault "command only uses one address" rest
        else
          let (code, rest) := readNumber (skipBlanks rest)
          (atEnd rest).map (.quit (c = 'Q') code, ·)
      | 'b' | 't' | 'T' =>
        let (name, rest) := readLabel rest
        (atEnd rest).map (.jump c name, ·)
      | _ => .error { message := "unknown command: `".toList ++ [c, '\''], rest }

/-- Reads a script; `opened` holds the places of the blocks that are open. -/
def readScript (extended : Bool) : Nat → List Nat → Array Instruction → Text →
    Except Fault (Array Instruction)
  | 0, _, is, _ => .ok is
  | fuel + 1, opened, is, t =>
    match skipGaps t with
    | [] =>
      if opened.isEmpty then .ok is
      else .error { message := "unmatched `\x7b'".toList, rest := [], general := true }
    | '#' :: rest => readScript extended fuel opened is (restOfLine rest).2
    | t => do
      let (selector, rest) ← readSelector extended t
      match skipBlanks rest with
      | '\x7b' :: rest =>
        readScript extended fuel (is.size :: opened) (is.push ⟨selector, .block 0⟩) rest
      | '\x7d' :: rest =>
        match opened with
        | [] => fault "unexpected `\x7d'" rest
        | place :: opened =>
          if selector.first.isSome then fault "\x7d doesn't want any addresses" rest
          else
            let is := is.modify place fun i ↦ { i with action := .block is.size }
            let rest ← atEnd rest
            readScript extended fuel opened is rest
      | rest =>
        let (action, rest) ← readAction extended selector rest
        readScript extended fuel opened (is.push ⟨selector, action⟩) rest

def read (extended : Bool) (t : Text) : Except Fault (Array Instruction) :=
  readScript extended (2 * t.length + 10) [] #[] t

end PpiDump.Tool.Edit
