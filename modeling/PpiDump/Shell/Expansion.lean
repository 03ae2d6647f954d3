import PpiDump.Shell.Fork

namespace PpiDump.Shell

inductive Gap where
  | edge | blank | word
  deriving DecidableEq, Repr

structure Cutting where
  done : List (List Glyph) := []
  current : Option (List Glyph) := none
  gap : Gap := .edge

namespace Cutting

def close (c : Cutting) (gap : Gap) : Cutting :=
  match c.current with
  | some gs => ⟨gs.reverse :: c.done, none, gap⟩
  | none => { c with gap }

def add (c : Cutting) (g : Glyph) : Cutting :=
  { c with current := some (g :: c.current.getD []), gap := .word }

/-- A separator that is no blank ends a word also where there is none. Blanks around it count with
it. -/
def step (separators : Text) (c : Cutting) (g : Glyph) : Cutting :=
  match g with
  | .cut => c.close .edge
  | .nothing => { c with current := some (c.current.getD []), gap := .word }
  | .char x _ splits =>
    if splits && separators.contains x then
      if x = ' ' || x = '\t' || x = '\n' then
        if c.current.isSome then c.close .blank else c
      else if c.current.isSome then c.close .edge
      else if c.gap = .blank then { c with gap := .edge }
      else { c with done := [] :: c.done }
    else c.add g

def words (separators : Text) (gs : List Glyph) : List (List Glyph) :=
  ((gs.foldl (step separators) {}).close .edge).done.reverse

end Cutting

namespace ShellM

def splitSlashes (gs : List Glyph) : List (List Glyph) :=
  gs.foldr (fun g parts ↦
    match g, parts with
    | .char '/' .., _ => [] :: parts
    | g, p :: ps => (g :: p) :: ps
    | g, [] => [[g]]) [[]]

def sortTexts (ts : List Text) : List Text := ts.mergeSort Text.le

def matchPaths (c : Context) : Text → List (List Glyph) → List Text
  | done, [] => [done]
  | done, part :: parts =>
    let slash : Text := if parts.isEmpty then [] else ['/']
    if Pattern.isMagic part then
      let here := if done.isEmpty then ['.'] else done
      match c.find here, c.locate here with
      | .ok .directory, .ok path =>
        let p := Pattern.ofGlyphs part
        let startsWithDot := match part with
          | .char '.' .. :: _ => true
          | _ => false
        let names := ((c.files.names path).map fun n ↦ Bytes.toChars (Utf8.encode n)) ++
          [['.'], ['.', '.']]
        let fitting := names.filter fun n ↦
          (startsWithDot || n.head? ≠ some '.') && Pattern.fits p n
        (sortTexts fitting).flatMap fun n ↦
          let next := done ++ n
          if parts.isEmpty then [next]
          else
            match c.find next with
            | .ok .directory => matchPaths c (next ++ slash) parts
            | _ => []
      | _, _ => []
    else
      let next := done ++ Glyph.text part
      if parts.isEmpty then
        if part.isEmpty then [next]
        else
          match c.find next with
          | .ok _ => [next]
          | .error _ => []
      else matchPaths c (next ++ slash) parts

def matchFiles (gs : List Glyph) : ShellM (List Text) := do
  if !Pattern.isMagic gs || (← hasFlag 'f') then return [Glyph.text gs]
  else
    match matchPaths (← get).context [] (splitSlashes gs) with
    | [] => return [Glyph.text gs]
    | ts => return ts

def connect : ShellM (Nat × Nat) := do
  let (_, outlet, inlet, m) := (← get).context.machine.connect
  system (ProcessM.setMachine m)
  return (outlet, inlet)

def drain (outlet : Nat) : ShellM Text := do
  let descriptors := (← get).context.process.descriptors
  let t ← system do
    ProcessM.setDescriptor 255 (some outlet)
    let t ← ProcessM.readAll 255
    ProcessM.changeProcess fun p ↦ { p with descriptors }
    return t
  return t.toOption.getD []

def capture (e : Engine) (cs : List Command) : ShellM Text := do
  let (outlet, inlet) ← connect
  let job ← forkInto e inlet (e.run { last := true } (.sequence cs))
  let t ← drain outlet
  let status ← await job.ending
  modify fun s ↦ { s with outputStatus := some status.number }
  answerSignals e
  return Text.dropEndWhile (· = '\n') (t.filter (· ≠ '\x00'))

def joinGlyphs (gs : List Glyph) : Text := Glyph.text gs

def valueGlyphs (quoted : Bool) (t : Text) : List Glyph := Glyph.ofText quoted (!quoted) t

def separateGlyphs (quoted : Bool) (ts : List Text) : List Glyph :=
  [Glyph.cut].intercalate (ts.map (valueGlyphs quoted))

def expandTilde (home : Text) (t : Text) : Text :=
  match t with
  | ['~'] => home
  | '~' :: '/' :: rest => home ++ '/' :: rest
  | t => (((Text.after? "~root".toList t).bind fun rest ↦
      if rest.isEmpty || rest.head? = some '/' then some ("/root".toList ++ rest) else none)).getD t

def valuePart (t : Text) : Text :=
  match Reader.settingStart? t with
  | some (_, _, value) => value
  | none => t

def isSettingWord : Word → Bool
  | .text false t :: _ => (Reader.settingStart? t).isSome
  | _ => false

def tildeParts (home : Text) (setting : Bool) (w : Word) : Word :=
  match w with
  | .text false t :: parts =>
    if setting then
      let before := t.take (t.length - (valuePart t).length)
      .text false (before ++
        Text.join [':'] ((Text.splitOn ':' (valuePart t)).map (expandTilde home))) :: parts
    else
      let name := t.takeWhile (· ≠ '/')
      if name.length = t.length && !parts.isEmpty then w
      else if t.head? = some '~' then
        let first := expandTilde home t
        if first = t then w else .text true first :: parts
      else w
  | w => w

variable (e : Engine)

def isMissing (empty : Bool) (v : Option Text) : Bool :=
  match v with
  | none => true
  | some t => empty && t.isEmpty

def missing {α : Type} (name : Text) : ShellM α := do
  failWith (name ++ ": ".toList ++
    (if ← isExtended then "unbound variable" else "parameter not set").toList)

def failInExpression {α : Type} (reason : String) (t : Text) : ShellM α :=
  failWith ("arithmetic expression: ".toList ++ reason.toList ++ ": \"".toList ++ t ++ ['"'])

def numberOf (name : Text) : ShellM Int := do
  match (← get).parameter? name with
  | none => if (← hasFlag 'u') && (← isExtended) then missing name else return 0
  | some t =>
    match integer? t with
    | some n => return n
    | none =>
      if ← isExtended then
        match (← get).parameter? t with
        | some u => return (integer? u).getD 0
        | none => return 0
      else failWith ("Illegal number: ".toList ++ t)

def assign (name value : Text) : ShellM Unit := do
  match State.splitIndex name with
  | (_, none) => setVariable name value
  | (base, some index) =>
    let s ← get
    let old := (s.find? base).getD { name := base, value := none }
    let elements := (index, value) :: old.elements.filter (·.1 ≠ index)
    let value := if index = ['0'] then some value else old.value
    set (s.putVariable { old with elements, value })

def passOver (t : Text) (x : Expression) : ShellM Unit := do
  if let some reason := x.fault? then failInExpression reason t

/-- The value of an expression, which is written as `t`. It is computed as far as it can be read. -/
def compute (t : Text) : Expression → ShellM Int
  | .fault reason => failInExpression reason t
  | .number n => return n
  | .variable name => numberOf name
  | .unary o a => return Expression.applyUnary o (← compute t a)
  | .binary o a b => do
    let x ← compute t a
    let y ← compute t b
    combine o x y
  | .both a b => do
    if (← compute t a) = 0 then
      passOver t b
      return 0
    else return Expression.truth ((← compute t b) ≠ 0)
  | .either a b => do
    if (← compute t a) ≠ 0 then
      passOver t b
      return 1
    else return Expression.truth ((← compute t b) ≠ 0)
  | .conditional a b c => do
    if (← compute t a) ≠ 0 then
      let n ← compute t b
      passOver t c
      return n
    else
      passOver t b
      compute t c
  | .assign name o a => do
    let y ← compute t a
    let n ← if o.isEmpty then pure y else do combine o (← numberOf name) y
    assign name (writeInteger n)
    return n
  | .step name n old => do
    let x ← numberOf name
    assign name (writeInteger (wrap (x + n)))
    return if old then x else wrap (x + n)
  | .sequence a b => do
    let _ ← compute t a
    compute t b
where
  combine (o : Text) (x y : Int) : ShellM Int :=
    match Expression.combine? o x y with
    | some n => pure n
    | none => failInExpression "division by zero" t

def computeText (t : Text) : ShellM Int := do
  let extended ← isExtended
  let x := Expression.ofText extended t
  if extended then passOver t x
  compute t x

def elementsOf (name : Text) : ShellM (List (Text × Text)) := do
  match (← get).find? name with
  | none => return []
  | some v =>
    if v.elements.isEmpty then return v.value.toList.map (['0'], ·)
    else
      return v.elements.mergeSort fun a b ↦
        Text.ofDigits a.1 ≤ Text.ofDigits b.1 && a.1.all Char.isDigit

def placeOf (index : Text) : ShellM Text := do
  if index = ['@'] || index = ['*'] then return index
  else
    let t := index.filter (· ≠ '$')
    let x := Expression.ofText true t
    if x.fault?.isSome then return index else return writeInteger (← compute t x)

def several? (name : Text) : ShellM (Option (Bool × List Text)) := do
  let s ← get
  if name = ['@'] then return some (true, s.args)
  else if name = ['*'] then return some (false, s.args)
  else
    match State.splitIndex name with
    | (base, some ['@']) => return some (true, (← elementsOf base).map Prod.snd)
    | (base, some ['*']) => return some (false, (← elementsOf base).map Prod.snd)
    | _ => return none

def single? (name : Text) : ShellM (Option Text) := do
  match State.splitIndex name with
  | (base, some index) =>
    let index ← placeOf index
    match index with
    | '-' :: _ =>
      let es ← elementsOf base
      let back := Text.ofDigits (index.drop 1)
      return (es[es.length - back]?).map Prod.snd
    | _ =>
      match (← get).parameter? (base ++ '[' :: index ++ [']']) with
      | some t => return some t
      | none => if index = ['0'] then return (← get).parameter? base else return none
  | _ => return (← get).parameter? name

structure Stance where
  inside : Bool := false
  cuts : Bool := false

def staysApart (cuts quoted apart : Bool) : ShellM Bool := do
  if ← isExtended then return !quoted || apart else return cuts && (!quoted || apart)

def severalGlyphs (cuts quoted apart : Bool) (ts : List Text) : ShellM (List Glyph) := do
  if ← staysApart cuts quoted apart then return separateGlyphs quoted ts
  else return valueGlyphs quoted (Text.join (← get).joiner ts)

/-- Takes away what a pattern stands for where several texts meet as one row. The start of the row
is sought in its first text; an end is sought in each text alone, and all behind it goes with it.
A search from the left stays in the first text. -/
def trimRow (p : List Pattern.Element) (atEnd longest : Bool) (ts : List Text) : List Text :=
  let row := Text.join ['\x00'] ts
  let first := ts.headD []
  let fromLeft := longest == atEnd
  let places := (List.range ((if fromLeft then first else row).length + 1)).filter fun n ↦
    Pattern.fits p (if atEnd then (row.drop n).takeWhile (· ≠ '\x00') else first.take n)
  match if fromLeft then places.head? else places.getLast? with
  | none => ts
  | some n => Text.splitOn '\x00' (if atEnd then row.take n else row.drop n)

def changeLetters (f : Char → Char) (letters : Letters) (t : Text) : Text :=
  match letters, t with
  | .first, c :: t => f c :: t
  | .first, [] => []
  | .all, t => t.map f

def expandParts (expand : Stance → Word → ShellM (List Glyph)) (stance : Stance) :
    List Part → ShellM (List Glyph)
  | [] => return []
  | part :: parts => do
    let here ← one part
    return here ++ (← expandParts expand stance parts)
where
  whole (w : Word) : ShellM Text := return joinGlyphs (← expand {} w)
  instead (w : Word) : ShellM (List Glyph) := expand { stance with inside := true } w
  one : Part → ShellM (List Glyph)
    | .text quoted t => return Glyph.ofText quoted (stance.inside && !quoted) t
    | .choices _ => return []
    | .arithmetic quoted expression => do
      let t ← whole expression
      return valueGlyphs quoted (writeInteger (← computeText t))
    | .output quoted cs => return valueGlyphs quoted (← capture e cs)
    | .parameter quoted name use => do
      match ← several? name with
      | some (apart, ts) => several quoted name use apart ts
      | none => single quoted name use
  several (quoted : Bool) (name : Text) (use : Use) (apart : Bool) (ts : List Text) :
      ShellM (List Glyph) := do
    let done := severalGlyphs stance.cuts quoted apart ts
    let lacks (empty : Bool) : ShellM Bool := do
      if ← isExtended then return ts.isEmpty || (empty && ts.all List.isEmpty)
      else
        let between ← if ← staysApart stance.cuts quoted apart then pure ['\x00']
          else pure (← get).joiner
        return empty && (Text.join between ts).isEmpty
    match use with
    | .value => done
    | .length =>
      if ← isExtended then return valueGlyphs quoted (Text.ofNat ts.length)
      else return valueGlyphs quoted (Text.ofNat (Text.join (← get).joiner ts).length)
    | .otherwise empty w => if ← lacks empty then instead w else done
    | .replaced empty w =>
      if ← lacks empty then
        return if quoted then [.nothing] else []
      else instead w
    | .assigned .. | .required .. =>
      if ts.isEmpty then failWith (name ++ ": bad variable name".toList) else done
    | .trimmed atEnd longest pattern =>
      let p := Pattern.ofGlyphs (← expand {} pattern)
      let trim (t : Text) : Text :=
        if atEnd then Pattern.trimEnd p longest t else Pattern.trimStart p longest t
      if ← isExtended then severalGlyphs stance.cuts quoted apart (ts.map trim)
      else if ← staysApart stance.cuts quoted apart then
        return separateGlyphs quoted (if ts.isEmpty then [[]] else trimRow p atEnd longest ts)
      else return valueGlyphs quoted (trim (Text.join (← get).joiner ts))
    | .changed spot pattern new =>
      let p := Pattern.ofGlyphs (← expand {} pattern)
      let new ← whole new
      severalGlyphs stance.cuts quoted apart (ts.map (Pattern.change spot p new))
    | .upper letters => severalGlyphs stance.cuts quoted apart (ts.map (changeLetters Char.toUpper letters))
    | .lower letters => severalGlyphs stance.cuts quoted apart (ts.map (changeLetters Char.toLower letters))
    | .slice start count =>
      let s ← get
      let all := if name = ['@'] || name = ['*'] then s.name :: ts else ts
      let m ← computeText (← whole start)
      let from_ := if m < 0 then (all.length + m).toNat else m.toNat
      let rest := all.drop from_
      match count with
      | none => severalGlyphs stance.cuts quoted apart rest
      | some w =>
        let n ← computeText (← whole w)
        severalGlyphs stance.cuts quoted apart (rest.take n.toNat)
    | .indirect =>
      let (base, _) := State.splitIndex name
      severalGlyphs stance.cuts quoted apart ((← elementsOf base).map Prod.fst)
    | .invalid => failWith "Bad substitution".toList
  single (quoted : Bool) (name : Text) (use : Use) : ShellM (List Glyph) := do
    let give (t : Text) : ShellM (List Glyph) := return valueGlyphs quoted t
    let v ← single? name
    let needed : ShellM Text := do
      match v with
      | some t => return t
      | none => if ← hasFlag 'u' then missing name else return []
    match use with
    | .value => give (← needed)
    | .length => give (Text.ofNat (← needed).length)
    | .otherwise empty w =>
      if isMissing empty v then instead w else give (v.getD [])
    | .replaced empty w =>
      if isMissing empty v then return if quoted then [.nothing] else [] else instead w
    | .assigned empty w =>
      if isMissing empty v then
        let t ← whole w
        if isName (State.splitIndex name).1 then
          assign name t
          give t
        else failWith (name ++ ": bad variable name".toList)
      else give (v.getD [])
    | .required empty w =>
      if isMissing empty v then
        let t ← whole w
        let extended ← isExtended
        failWith (name ++ ": ".toList ++
          (if !t.isEmpty then t
            else if extended then "parameter null or not set".toList
            else if empty then "parameter not set or null".toList
            else "parameter not set".toList))
      else give (v.getD [])
    | .trimmed atEnd longest pattern =>
      let t ← needed
      let p := Pattern.ofGlyphs (← expand {} pattern)
      give (if atEnd then Pattern.trimEnd p longest t else Pattern.trimStart p longest t)
    | .changed spot pattern new =>
      let t ← needed
      let p := Pattern.ofGlyphs (← expand {} pattern)
      give (Pattern.change spot p (← whole new) t)
    | .upper letters => give (changeLetters Char.toUpper letters (← needed))
    | .lower letters => give (changeLetters Char.toLower letters (← needed))
    | .slice start count =>
      let t ← needed
      let m ← computeText (← whole start)
      let from_ := if m < 0 then (t.length + m).toNat else m.toNat
      let rest := if m < 0 && t.length < m.natAbs then [] else t.drop from_
      match count with
      | none => give rest
      | some w =>
        let n ← computeText (← whole w)
        give (if n < 0 then rest.take (rest.length + n).toNat else rest.take n.toNat)
    | .indirect => give (((← get).parameter? (← needed)).getD [])
    | .invalid => failWith "Bad substitution".toList

def depthLimit : Nat := 200

def expandDeep : Nat → Stance → Word → ShellM (List Glyph)
  | 0, _, _ => throw .stuck
  | fuel + 1, stance, w => expandParts e (expandDeep fuel) stance w

def chooseParts : Nat → Word → List Word
  | 0, w => [w]
  | fuel + 1, w =>
    match w with
    | [] => [[]]
    | .choices ws :: parts =>
      let rests := chooseParts fuel parts
      (ws.flatMap (chooseParts fuel)).flatMap fun v ↦ rests.map (v ++ ·)
    | part :: parts => (chooseParts fuel parts).map (part :: ·)

def homeDirectory : ShellM Text := return ((← get).setting? "HOME".toList).getD ['~']

def expandGlyphs (w : Word) : ShellM (List Glyph) := do
  expandDeep e depthLimit {} (tildeParts (← homeDirectory) false w)

def expandWord (w : Word) : ShellM (List Text) := do
  match w with
  | [.text false t] =>
    if !(t.any fun c ↦ c = '*' || c = '?' || c = '[' || c = '~') then return [t]
  | _ => pure ()
  let home ← homeDirectory
  let separators := (← get).separators
  let setting := isSettingWord w && (← isExtended)
  let mut done : List (List Text) := []
  for w in chooseParts depthLimit w do
    let gs ← expandDeep e depthLimit { cuts := true } (tildeParts home setting w)
    for word in Cutting.words separators gs do
      done := (← matchFiles word) :: done
  return done.reverse.flatten

def expandWords (ws : List Word) : ShellM (List Text) := do
  let mut done : List (List Text) := []
  for w in ws do
    done := (← expandWord e w) :: done
  return done.reverse.flatten

def expandText (setting : Bool) (w : Word) : ShellM Text := do
  match w with
  | [] => return []
  | w => return joinGlyphs (← expandDeep e depthLimit {}
      (tildeParts (← homeDirectory) setting w))

end ShellM

end PpiDump.Shell
