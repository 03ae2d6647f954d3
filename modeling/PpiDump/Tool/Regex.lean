import PpiDump.Shell.Pattern

namespace PpiDump

inductive Regex where
  | char (c : Char)
  | any
  | set (negated : Bool) (items : List Shell.Pattern.Item)
  | lineStart
  | lineEnd
  | wordStart
  | wordEnd
  | wordEdge (inside : Bool)
  | apart (behind : Bool)
  | group (n : Nat) (r : Regex)
  | back (n : Nat)
  | sequence (rs : List Regex)
  | either (rs : List Regex)
  | times (r : Regex) (least : Nat) (most : Option Nat)

namespace Regex

def isWordChar (c : Char) : Bool := c.isAlphanum || c = '_'

def spaces : List Shell.Pattern.Item := [.sort "space".toList]

def wordItems : List Shell.Pattern.Item := [.sort "alnum".toList, .range '_' '_']

structure Style where
  extended : Bool := false
  strict : Bool := false
  emptyRanges : Bool := false

inductive Flaw where
  | emptySet | openSet | sort | range | openGroup | closedGroup | openBraces | braces | tooMany
  | nothingRepeated | reference | backslash
  deriving DecidableEq, Repr

def Flaw.message : Flaw → Text
  | emptySet => "Invalid regular expression".toList
  | openSet => "Unmatched [, [^, [:, [., or [=".toList
  | sort => "Invalid character class name".toList
  | range => "Invalid range end".toList
  | openGroup => "Unmatched ( or \\(".toList
  | closedGroup => "Unmatched ) or \\)".toList
  | openBraces => "Unmatched \\\x7b".toList
  | braces => "Invalid content of \\\x7b\\\x7d".toList
  | tooMany => "Regular expression too big".toList
  | nothingRepeated => "Invalid preceding regular expression".toList
  | reference => "Invalid back reference".toList
  | backslash => "Trailing backslash".toList

/-- What is left to read, the number of groups so far, and those that have been closed. -/
structure Rest where
  text : Text
  groups : Nat := 0
  closed : List Nat := []

def readNumbers (t : Text) : Option (Nat × Option Nat × Text) :=
  let m := t.takeWhile Char.isDigit
  let rest := t.drop m.length
  match rest with
  | ',' :: rest =>
    let n := rest.takeWhile Char.isDigit
    some (Text.ofDigits m, if n.isEmpty then none else some (Text.ofDigits n), rest.drop n.length)
  | rest => if m.isEmpty then none else some (Text.ofDigits m, some (Text.ofDigits m), rest)

def timesLimit : Nat := 32767

def readBraces (style : Style) (t : Text) : Except Flaw (Option (Nat × Option Nat × Text)) :=
  let closing : Text := if style.extended then ['\x7d'] else ['\\', '\x7d']
  let wrong (f : Flaw) : Except Flaw (Option (Nat × Option Nat × Text)) :=
    if style.extended && !style.strict then .ok none else .error f
  match readNumbers t with
  | none => wrong (if t.isEmpty then .openBraces else .braces)
  | some (m, n, rest) =>
    if rest.isEmpty then wrong .openBraces
    else if !closing.isPrefixOf rest then wrong .braces
    else if n.any (· < m) then .error .braces
    else if timesLimit < n.getD m then .error .tooMany
    else .ok (some (m, n, rest.drop closing.length))

def readTimes (style : Style) (t : Text) : Except Flaw (Option (Nat × Option Nat × Text)) :=
  let sign (t : Text) : Except Flaw (Option (Nat × Option Nat × Text)) :=
    match t with
    | '+' :: t => .ok (some (1, none, t))
    | '?' :: t => .ok (some (0, some 1, t))
    | '\x7b' :: t => readBraces style t
    | _ => .ok none
  match t with
  | '*' :: t => .ok (some (0, none, t))
  | '\\' :: t => if style.extended then .ok none else sign t
  | t => if style.extended then sign t else .ok none

def repeated (style : Style) : Nat → Regex → Text → Except Flaw (Regex × Text)
  | 0, r, t => .ok (r, t)
  | fuel + 1, r, t => do
    match ← readTimes style t with
    | some (m, n, rest) =>
      let again := "*".toList.isPrefixOf rest || "\\\x7b".toList.isPrefixOf rest
      if style.strict && !style.extended && again then throw .nothingRepeated
      repeated style fuel (.times r m n) rest
    | none => return (r, t)

def readSet (style : Style) (t : Text) : Except Flaw (Regex × Text) :=
  let (negated, inside) := match t with
    | '^' :: t => (true, t)
    | t => (false, t)
  let isWrong : Shell.Pattern.Item → Option Flaw
    | .range first last => if last < first && !style.emptyRanges then some .range else none
    | .sort name => if Shell.Pattern.sorts.contains name then none else some .sort
  match Shell.Pattern.readItems (inside.length + 1) true (inside.map (·, false)) with
  | none => .error (if inside.isEmpty then .emptySet else .openSet)
  | some (items, rest) =>
    if (items.drop 1).dropLast.contains (.range '-' '-') then .error .range
    else
      match items.findSome? isWrong with
      | some f => .error f
      | none => .ok (.set negated items, rest.map Prod.fst)

/-- What a character stands for behind a backslash, and whether that is a place rather than a
character. -/
def escaped : Char → Regex × Bool
  | 'w' => (.set false wordItems, false)
  | 'W' => (.set true wordItems, false)
  | 's' => (.set false spaces, false)
  | 'S' => (.set true spaces, false)
  | '<' => (.wordStart, true)
  | '>' => (.wordEnd, true)
  | 'b' => (.wordEdge false, true)
  | 'B' => (.wordEdge true, true)
  | '\x60' => (.lineStart, true)
  | '\'' => (.lineEnd, true)
  | 'n' => (.char '\n', false)
  | 't' => (.char '\t', false)
  | c => (.char c, false)

inductive Token where
  | bar | open | close
  | item (r : Regex)
  | place (r : Regex)
  | nothing

def nextToken (style : Style) (isFirst : Bool) (s : Rest) : Except Flaw (Token × Text) :=
  let x := style.extended
  let operator (c : Char) : Option Token :=
    if c = '|' then some .bar else if c = '(' then some .open else if c = ')' then some .close
    else none
  match s.text with
  | [] => .ok (.nothing, [])
  | '.' :: t => .ok (.item .any, t)
  | '[' :: t => (readSet style t).map fun (r, t) ↦ (.item r, t)
  | '^' :: t => .ok (if x || isFirst then .place .lineStart else .item (.char '^'), t)
  | '$' :: t =>
    let isLast := t.isEmpty || (if x then false else
      "\\|".toList.isPrefixOf t || "\\)".toList.isPrefixOf t)
    .ok (if x || isLast then .place .lineEnd else .item (.char '$'), t)
  | ['\\'] => .error .backslash
  | '\\' :: c :: t =>
    match if x then none else operator c with
    | some token => .ok (token, t)
    | none =>
      if c.isDigit && c ≠ '0' then
        let n := c.toNat - '0'.toNat
        if s.closed.contains n then .ok (.item (.back n), t) else .error .reference
      else
        let (r, isPlace) := escaped c
        .ok (if isPlace then .place r else .item r, t)
  | c :: t =>
    match if x then operator c else none with
    | some token => .ok (token, t)
    | none => .ok (.item (.char c), t)

mutual

def readEither (style : Style) (depth : Nat) : Nat → Rest → Except Flaw (Regex × Rest)
  | 0, _ => .error .tooMany
  | fuel + 1, s => do
    let (r, s) ← readBranch style depth fuel true true [] s
    match ← nextToken style false s with
    | (.bar, t) =>
      let (r', s) ← readEither style depth fuel { s with text := t }
      match r' with
      | .either rs => return (.either (r :: rs), s)
      | r' => return (.either [r, r'], s)
    | _ => return (r, s)

/-- What follows one after the other. At the start of a branch and behind a place there is
nothing that could be repeated, which `isBare` tells. -/
def readBranch (style : Style) (depth : Nat) :
    Nat → Bool → Bool → List Regex → Rest → Except Flaw (Regex × Rest)
  | 0, _, _, _, _ => .error .tooMany
  | fuel + 1, isFirst, isBare, done, s => do
    let finish : Except Flaw (Regex × Rest) := .ok (.sequence done.reverse, s)
    let go (r : Regex) (s : Rest) : Except Flaw (Regex × Rest) := do
      let (r, t) ← repeated style (s.text.length + 1) r s.text
      readBranch style depth fuel false false (r :: done) { s with text := t }
    let bare ← if isBare then readTimes style s.text else pure none
    match bare, ← nextToken style isFirst s with
    | some (_, _, t), (_, rest) =>
      if style.strict && (style.extended || "\\\x7b".toList.isPrefixOf s.text) then
        throw .nothingRepeated
      else if style.extended then
        readBranch style depth fuel isFirst isBare done { s with text := t }
      else
        let sign := (s.text.find? (· ≠ '\\')).getD '*'
        go (.char sign) { s with text := rest }
    | none, (token, t) =>
      match token with
      | .nothing | .bar => finish
      | .close =>
        if 0 < depth then finish
        else if style.extended && !style.strict then go (.char ')') { s with text := t }
        else throw .closedGroup
      | .open =>
        let n := s.groups + 1
        let (r, s) ← readEither style (depth + 1) fuel { s with text := t, groups := n }
        match ← nextToken style false s with
        | (.close, t) => go (.group n r) { s with text := t, closed := n :: s.closed }
        | _ => throw .openGroup
      | .item r => go r { s with text := t }
      | .place r => readBranch style depth fuel false true (r :: done) { s with text := t }

end

def read (style : Style) (t : Text) : Except Flaw Regex :=
  (readEither style 0 (4 * t.length + 16) ⟨t, 0, []⟩).map Prod.fst

/-- A place in a text: the character before it and the text behind it. -/
structure Spot where
  before : Option Char
  rest : Text

def Spot.next (s : Spot) : Spot := ⟨s.rest.head?, s.rest.tail⟩

inductive Task where
  | match_ (r : Regex)
  | close (n : Nat) (start : Text)
  /-- Goes on with a repetition, which must have moved from a length of the rest. -/
  | again (r : Regex) (least : Nat) (most : Option Nat) (from_ : Nat)

structure Match where
  rest : Text
  before : Option Char
  groups : List (Nat × Text)

def fold (ignoreCase : Bool) (c : Char) : Char := if ignoreCase then c.toLower else c

def fits (ignoreCase : Bool) (c : Char) : Regex → Bool
  | .char d => fold ignoreCase c = fold ignoreCase d
  | .any => true
  | .set negated items =>
    (items.any (·.has c) || (ignoreCase && (items.any (·.has c.toLower) ||
      items.any (·.has c.toUpper)))) != negated
  | _ => false

def isWordAt (c : Option Char) : Bool := c.any isWordChar

def better (a b : Option Match) : Option Match :=
  match a, b with
  | some x, some y => if y.rest.length < x.rest.length then some y else some x
  | some x, none => some x
  | none, b => b

def solve (ignoreCase : Bool) : Nat → List Task → Spot → List (Nat × Text) → Option Match
  | 0, _, _, _ => none
  | fuel + 1, tasks, s, groups =>
    match tasks with
    | [] => some ⟨s.rest, s.before, groups⟩
    | .close n start :: tasks =>
      let t := start.take (start.length - s.rest.length)
      solve ignoreCase fuel tasks s ((n, t) :: groups.filter (·.1 ≠ n))
    | .again r least most from_ :: tasks =>
      if s.rest.length = from_ && least = 0 then solve ignoreCase fuel tasks s groups
      else solve ignoreCase fuel (.match_ (.times r least most) :: tasks) s groups
    | .match_ r :: tasks =>
      let go (b : Bool) : Option Match := if b then solve ignoreCase fuel tasks s groups else none
      match r with
      | .lineStart => go s.before.isNone
      | .lineEnd => go s.rest.isEmpty
      | .wordStart => go (!isWordAt s.before && isWordAt s.rest.head?)
      | .wordEnd => go (isWordAt s.before && !isWordAt s.rest.head?)
      | .apart behind => go (!isWordAt (if behind then s.before else s.rest.head?))
      | .wordEdge inside => go ((isWordAt s.before != isWordAt s.rest.head?) != inside)
      | .group n r =>
        solve ignoreCase fuel (.match_ r :: .close n s.rest :: tasks) s groups
      | .back n =>
        let t := ((groups.find? (·.1 = n)).map Prod.snd).getD []
        if (t.map (fold ignoreCase)).isPrefixOf (s.rest.map (fold ignoreCase)) then
          solve ignoreCase fuel tasks ⟨(t.getLast?).or s.before, s.rest.drop t.length⟩ groups
        else none
      | .sequence rs => solve ignoreCase fuel (rs.map .match_ ++ tasks) s groups
      | .either rs =>
        rs.foldl (fun best r ↦ better best
          (solve ignoreCase fuel (.match_ r :: tasks) s groups)) none
      | .times r least most =>
        let more := most.map (· - 1)
        if most = some 0 then solve ignoreCase fuel tasks s groups
        else
          match solve ignoreCase fuel
              (.match_ r :: .again r (least - 1) more s.rest.length :: tasks) s groups with
          | some m => some m
          | none => if least = 0 then solve ignoreCase fuel tasks s groups else none
      | r =>
        match s.rest with
        | c :: _ =>
          if fits ignoreCase c r then solve ignoreCase fuel tasks s.next groups else none
        | [] => none

/-- A match in a text: what lies before it, what it is, what is left, and its groups. -/
structure Found where
  start : Text
  text : Text
  rest : Text
  groups : List (Nat × Text)

def search (ignoreCase : Bool) (r : Regex) (skipped : Text) (before : Option Char) :
    Text → Option Found
  | [] =>
    (solve ignoreCase 200 [.match_ r] ⟨before, []⟩ []).map fun m ↦
      ⟨skipped.reverse, [], m.rest, m.groups⟩
  | c :: t =>
    match solve ignoreCase (20 * t.length + 200) [.match_ r] ⟨before, c :: t⟩ [] with
    | some m =>
      some ⟨skipped.reverse, (c :: t).take (t.length + 1 - m.rest.length), m.rest, m.groups⟩
    | none => search ignoreCase r (c :: skipped) (some c) t

def find? (ignoreCase : Bool) (r : Regex) (t : Text) : Option Found :=
  search ignoreCase r [] none t

def findAfter? (ignoreCase : Bool) (r : Regex) (part t : Text) : Option Found :=
  search ignoreCase r [] part.getLast? t

end Regex

end PpiDump
