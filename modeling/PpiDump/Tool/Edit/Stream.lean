import PpiDump.Tool.Edit.Script

namespace PpiDump.Tool.Edit

/-- A line and whether a line feed follows it. -/
abbrev Line := Text × Bool

inductive Pending where
  | text (t : Text)
  | file (path : Text)

structure Stream where
  space : Text := []
  hold : Text := []
  input : List Line
  number : Nat := 0
  fed : Bool := true
  pending : List Pending := []
  output : List Text := []
  lacking : Bool := false
  written : List (Text × Text) := []
  replaced : Bool := false
  ranges : List (Nat × Option Nat) := []
  latest : Option Regex := none
  fault : Option Text := none

structure Settings where
  instructions : Array Instruction
  quiet : Bool
  feed : Char := '\n'
  contents : List (Text × Text) := []

namespace Stream

def isLast (s : Stream) : Bool := s.input.isEmpty

def put (feed : Char) (s : Stream) (t : Text) (fed : Bool) : Stream :=
  let before : Text := if s.lacking then [feed] else []
  { s with output := (before ++ t ++ if fed then [feed] else []) :: s.output, lacking := !fed }

def putSpace (feed : Char) (s : Stream) : Stream := s.put feed s.space s.fed

def putRaw (feed : Char) (s : Stream) (t : Text) : Stream :=
  if t.isEmpty then s
  else
    let before : Text := if s.lacking then [feed] else []
    { s with output := (before ++ t) :: s.output, lacking := false }

def flush (x : Settings) (s : Stream) : Stream :=
  let s' := s.pending.reverse.foldl (fun s p ↦
    match p with
    | .text t => s.putRaw x.feed t
    | .file path =>
      s.putRaw x.feed (((x.contents.find? (·.1 = path)).map Prod.snd).getD [])) s
  { s' with pending := [] }

def writeTo (x : Settings) (s : Stream) (path t : Text) : Stream :=
  if path = "/dev/stdout".toList then s.put x.feed t s.fed
  else { s with written := (path, t ++ [x.feed]) :: s.written }

def find (p : Pattern) (s : Stream) : Option Regex × Option Regex.Found :=
  match p.regex?.or s.latest with
  | some r => (some r, r.find? p.ignoreCase s.space)
  | none => (none, none)

def isAt (s : Stream) (a : Address) : Bool × Stream :=
  match a with
  | .line n => (n = s.number, s)
  | .last => (s.isLast, s)
  | .every first step =>
    (if step = 0 then s.number = first
      else first ≤ s.number && (s.number - first) % step = 0, s)
  | .fits p =>
    let (r, f) := s.find p
    let fault := if r.isNone then s.fault.or (some "no previous regular expression".toList)
      else s.fault
    (f.isSome, { s with latest := r, fault })

def closeRange (s : Stream) (place : Nat) : Stream :=
  { s with ranges := s.ranges.filter (·.1 ≠ place) }

def openRange (s : Stream) (place : Nat) (finish : Option Nat) : Stream :=
  { s with ranges := (place, finish) :: s.ranges.filter (·.1 ≠ place) }

def isInside (s : Stream) (place : Nat) (finish : Option Nat) (f : Finish) : Bool × Stream :=
  match finish, f with
  | some n, _ =>
    if s.number < n then (true, s) else (s.number = n, s.closeRange place)
  | none, .at a =>
    let (hit, s) := s.isAt a
    (true, if hit then s.closeRange place else s)
  | none, _ => (true, s)

def begins (s : Stream) (place : Nat) (first : Address) (f : Finish) : Bool × Stream :=
  let (hit, s) := s.isAt first
  if !hit then (false, s)
  else
    let until' (n : Nat) : Stream := if n ≤ s.number then s else s.openRange place (some n)
    match f with
    | .at (.line n) => (true, until' n)
    | .at _ => (true, s.openRange place none)
    | .after n => (true, until' (s.number + n))
    | .multiple n => (true, if n = 0 then s else until' ((s.number + n - 1) / n * n))

def selects (s : Stream) (place : Nat) (x : Selector) : Bool × Stream :=
  let (hit, s) : Bool × Stream := match x.first, x.finish with
    | none, _ => (true, s)
    | some a, none => s.isAt a
    | some a, some f =>
      match s.ranges.find? (·.1 = place) with
      | some (_, finish) => s.isInside place finish f
      | none => s.begins place a f
  (hit != x.negated, s)

/-- Where a range is a range from the very beginning, it is open at the start. -/
def ofInput (instructions : Array Instruction) (input : List Line) : Stream :=
  let ranges := instructions.toList.mapIdx (fun i x ↦
    match x.selector.first with
    | some (.line 0) => some (i, (none : Option Nat))
    | _ => none)
  { input, ranges := ranges.filterMap id }

def cased (once all : Option Char) (t : Text) : Text :=
  let convert (mode : Option Char) (c : Char) : Char :=
    match mode with
    | some 'U' | some 'u' => c.toUpper
    | some 'L' | some 'l' => c.toLower
    | _ => c
  match t with
  | [] => []
  | c :: rest => convert (once.or all) c :: rest.map (convert all)

def fill (f : Regex.Found) : Option Char → Option Char → List Piece → Text
  | _, _, [] => []
  | once, all, p :: ps =>
    match p with
    | .casing c =>
      if c = 'E' then fill f none none ps
      else if c = 'u' || c = 'l' then fill f (some c) all ps
      else fill f none (some c) ps
    | .text t => cased once all t ++ fill f (if t.isEmpty then once else none) all ps
    | .group n =>
      let t := if n = 0 then f.text else ((f.groups.find? (·.1 = n)).map Prod.snd).getD []
      cased once all t ++ fill f (if t.isEmpty then once else none) all ps

/-- Replaces matches from a number of them on. `seen` is what lies before, and `justEnded` tells
whether another match ends there, behind which nothing is no match. -/
def replace (s : Substitution) (r : Regex) : Nat → Nat → Text → Bool → Text → Text × Bool
  | 0, _, _, _, t => (t, false)
  | fuel + 1, k, seen, justEnded, t =>
    match Regex.findAfter? s.pattern.ignoreCase r seen t with
    | none => (t, false)
    | some f =>
      let skips : Bool := f.text.isEmpty && f.start.isEmpty && justEnded
      if skips then
        match t with
        | [] => ([], false)
        | c :: rest =>
          let (t, b) := replace s r fuel k (seen ++ [c]) false rest
          (c :: t, b)
      else
        let counts : Bool := s.first ≤ k
        let new := if counts then fill f none none s.pieces else f.text
        if counts && !s.every then (f.start ++ new ++ f.rest, true)
        else if f.text.isEmpty then
          match f.rest with
          | [] => (f.start ++ new, counts)
          | c :: rest =>
            let (t, b) := replace s r fuel (k + 1) (seen ++ f.start ++ [c]) false rest
            (f.start ++ new ++ c :: t, counts || b)
        else
          let (t, b) := replace s r fuel (k + 1) (seen ++ f.start ++ f.text) true f.rest
          (f.start ++ new ++ t, counts || b)

def substitute (x : Settings) (s : Stream) (sub : Substitution) : Stream :=
  match sub.pattern.regex?.or s.latest with
  | none => { s with fault := s.fault.or (some "no previous regular expression".toList) }
  | some r =>
    let s := { s with latest := some r }
    let (t, changed) := replace sub r (2 * s.space.length + 4) 1 [] false s.space
    if !changed then s
    else
      let s := { s with space := t, replaced := true }
      let s := if sub.prints then s.putSpace x.feed else s
      match sub.file with
      | some path => s.writeTo x path s.space
      | none => s

def listed (t : Text) : Text :=
  let unit (c : Char) : Text :=
    match c with
    | '\\' => "\\\\".toList
    | '\x07' => "\\a".toList
    | '\x08' => "\\b".toList
    | '\x0c' => "\\f".toList
    | '\n' => "\\n".toList
    | '\r' => "\\r".toList
    | '\t' => "\\t".toList
    | '\x0b' => "\\v".toList
    | c => if ' ' ≤ c && c ≤ '~' then [c]
      else '\\' :: [c.toNat / 64, c.toNat / 8 % 8, c.toNat % 8].map Nat.digitChar
  let (done, _) := t.foldl (fun (done, width) c ↦
    let u := unit c
    if 69 < width + u.length then (u.reverse ++ '\n' :: '\\' :: done, u.length)
    else (u.reverse ++ done, width + u.length)) (([] : Text), 0)
  done.reverse ++ ['$']

inductive Next where
  | go (place : Nat)
  | cycle (writes : Bool)
  | again
  | stop (writes : Bool) (code : Nat)
  | over

def readNext (s : Stream) : Stream :=
  match s.input with
  | [] => s
  | (t, fed) :: input => { s with space := t, fed, input, number := s.number + 1 }

def labelPlace (x : Settings) (name : Text) : Nat :=
  (x.instructions.findIdx? fun i ↦
    match i.action with
    | .label n => n = name
    | _ => false).getD x.instructions.size

def firstPart (t : Text) : Text := t.takeWhile (· ≠ '\n')

def runPlain (x : Settings) (s : Stream) (place : Nat) (letter : Char) : Stream × Next :=
  let go (s : Stream) : Stream × Next := (s, .go (place + 1))
  match letter with
  | '=' => go (s.put '\n' (Text.ofNat s.number) true)
  | 'd' => (s, .cycle false)
  | 'D' =>
    if s.space.contains '\n' then
      ({ s with space := s.space.drop ((firstPart s.space).length + 1) }, .again)
    else (s, .cycle false)
  | 'g' => go { s with space := s.hold }
  | 'G' => go { s with space := s.space ++ x.feed :: s.hold }
  | 'h' => go { s with hold := s.space }
  | 'H' => go { s with hold := s.hold ++ x.feed :: s.space }
  | 'x' => go { s with space := s.hold, hold := s.space }
  | 'n' =>
    if s.isLast then (s, .over)
    else
      let s := if x.quiet then s else s.putSpace x.feed
      go (s.flush x).readNext
  | 'N' =>
    if s.isLast then (s, .over)
    else
      let before := s.space
      let s := (s.flush x).readNext
      go { s with space := before ++ x.feed :: s.space }
  | 'p' => go (s.putSpace x.feed)
  | 'P' => go (s.put x.feed (firstPart s.space) true)
  | 'z' => go { s with space := [] }
  | 'l' => go (s.put '\n' (listed s.space) true)
  | _ => go (s.put '\n' ['-'] true)

def runAction (x : Settings) (s : Stream) (place : Nat) (i : Instruction) : Stream × Next :=
  let go (s : Stream) : Stream × Next := (s, .go (place + 1))
  match i.action with
  | .nothing | .label _ | .block _ => go s
  | .substitute sub => go (s.substitute x sub)
  | .translate table =>
    go { s with space := s.space.map fun c ↦ ((table.find? (·.1 = c)).map Prod.snd).getD c }
  | .plain letter => s.runPlain x place letter
  | .append t => go { s with pending := .text t :: s.pending }
  | .insert t => go (s.putRaw x.feed t)
  | .change t =>
    let ends : Bool := i.selector.finish.isNone || i.selector.negated ||
      !(s.ranges.any (·.1 = place))
    (if ends then s.putRaw x.feed t else s, .cycle false)
  | .jump letter name =>
    let target := if name.isEmpty then x.instructions.size else labelPlace x name
    let jumps : Bool := letter = 'b' || (letter = 't') == s.replaced
    let s := if letter = 'b' then s else { s with replaced := false }
    (s, .go (if jumps then target else place + 1))
  | .quit silent code =>
    (if silent then { s with pending := [] } else s, .stop (!silent) code)
  | .readFile path => go { s with pending := .file path :: s.pending }
  | .writeFile firstLine path =>
    go (s.writeTo x path (if firstLine then firstPart s.space else s.space))

def runFrom (x : Settings) : Nat → Nat → Stream → Stream × Next
  | 0, _, s => (s, .over)
  | fuel + 1, place, s =>
    match x.instructions[place]? with
    | none => (s, .cycle true)
    | some i =>
      let (hit, s) := s.selects place i.selector
      if !hit then
        match i.action with
        | .block finish => runFrom x fuel finish s
        | _ => runFrom x fuel (place + 1) s
      else
        match s.runAction x place i with
        | (s, .go next) => runFrom x fuel next s
        | (s, next) => (s, next)

def stepLimit : Nat := 1000000

/-- Runs cycles until the input or the script is at its end, and tells how it ended. -/
def runCycles (x : Settings) : Nat → Bool → Stream → Stream × Option Nat
  | 0, _, s => (s, none)
  | fuel + 1, hasLine, s =>
    if !hasLine && s.isLast then (s, none)
    else
      let before := s.output
      let s := if hasLine then s else { s.readNext with replaced := false }
      let (s, next) := runFrom x stepLimit 0 s
      if s.fault.isSome then ({ s with output := before }, some 1)
      else
      match (s, next) with
      | (s, .cycle writes) =>
        let s := if writes && !x.quiet then s.putSpace x.feed else s
        runCycles x fuel false (s.flush x)
      | (s, .again) => runCycles x fuel true (s.flush x)
      | (s, .stop writes code) =>
        let s := if writes && !x.quiet then s.putSpace x.feed else s
        (s.flush x, some code)
      | (s, .over) =>
        let s := if x.quiet then s else s.putSpace x.feed
        (s.flush x, none)
      | (s, .go _) => (s, none)

def run (x : Settings) (s : Stream) : Stream × Option Nat :=
  runCycles x (s.input.length * 50 + 1000) false s

end Stream

end PpiDump.Tool.Edit
