import PpiDump.Tool.Basic

namespace PpiDump.Tool

def visible (showTabs : Bool) (c : Char) : Text :=
  if c = '\t' then if showTabs then "^I".toList else ['\t']
  else if c < ' ' then ['^', Char.ofNat (c.toNat + 64)]
  else if c < '\x7f' then [c]
  else if c = '\x7f' then "^?".toList
  else
    let d := Char.ofNat (c.toNat - 128)
    "M-".toList ++
      (if d < ' ' then ['^', Char.ofNat (d.toNat + 64)] else if d = '\x7f' then "^?".toList else [d])

def squeezed : Bool → List Text → List Text
  | _, [] => []
  | afterBlank, l :: ls =>
    let blank : Bool := l = ['\n']
    if blank && afterBlank then squeezed true ls else l :: squeezed blank ls

def numbered (skipBlank : Bool) : Nat → List (Text × Text) → List Text
  | _, [] => []
  | n, (l, shown) :: ls =>
    if skipBlank && l.head? = some '\n' then shown :: numbered skipBlank n ls
    else
      let ds := Text.ofNat n
      (Text.spaces (6 - ds.length) ++ ds ++ '\t' :: shown) :: numbered skipBlank (n + 1) ls

def dressed (g : Given) (t : Text) : Text :=
  let all := g.has 'A'
  let ends := all || g.has 'E' || g.has 'e'
  let tabs := all || g.has 'T' || g.has 't'
  let shows := all || g.has 'v' || g.has 'e' || g.has 't'
  let dress (l : Text) : Text :=
    let feed : Bool := l.getLast? = some '\n'
    let body := if feed then l.dropLast else l
    let body := if shows then body.flatMap (visible tabs)
      else if tabs then body.flatMap fun c ↦ if c = '\t' then "^I".toList else [c]
      else body
    body ++ (if feed then if ends then ['$', '\n'] else ['\n'] else [])
  let ls := rawLines t
  let ls := (if g.has 's' then squeezed false ls else ls).map fun l ↦ (l, dress l)
  let result := if g.has 'b' then numbered true 1 ls
    else if g.has 'n' then numbered false 1 ls
    else ls.map Prod.snd
  result.flatten

def concatenate : Tool :=
  withOptions "cat" {
      letters := "AbeEnstTuv"
      long := [("show-all", 'A'), ("number-nonblank", 'b'), ("show-ends", 'E'), ("number", 'n'),
        ("squeeze-blank", 's'), ("show-tabs", 'T'), ("show-nonprinting", 'v')] } 1 fun g ↦ do
    if g.options.all (·.1 = 'u') then
      return status (← onFiles "cat" plainly g.operands fun _ n ↦ ProcessM.drain n put)
    else
      let (texts, ok) ← readFiles "cat" plainly g.operands
      put (dressed g (texts.flatMap Prod.snd))
      return status ok

def tee : Tool :=
  withOptions "tee" { letters := "aip", long := [("append", 'a')] } 1 fun g ↦ do
    let before := (← get).process.descriptors
    let mut ok := true
    let mut number := 200
    for path in g.operands do
      match ← ProcessM.openFile (if g.has 'a' then .append else .write) path with
      | .ok n =>
        ProcessM.setDescriptor number (some n)
        number := number + 1
      | .error e =>
        complain "tee" (plainly path e)
        ok := false
    let copies := (List.range (number - 200)).map (· + 200)
    let _ ← ProcessM.drain 0 fun t ↦ do
      put t
      copies.forM fun n ↦ do let _ ← ProcessM.put n t
    ProcessM.changeProcess fun p ↦ { p with descriptors := before }
    return status ok

/-- Writes a line for ever. As much of it is written as anyone may want to read. -/
def yes : Tool := fun args ↦ do
  let line := (if args.isEmpty then ['y'] else Text.join [' '] args) ++ ['\n']
  put (List.replicate (200000 / line.length + 1) line).flatten
  ProcessM.changeProcess fun p ↦ { p with stuck := true }
  return 1

def count? (t : Text) : Option Nat :=
  let t := if t.head? = some '+' then t.drop 1 else t
  let ds := t.takeWhile Char.isDigit
  let factor := match String.ofList (t.drop ds.length) with
    | "" => some 1
    | "b" => some 512
    | "k" | "K" | "KiB" => some 1024
    | "kB" | "KB" => some 1000
    | "M" | "m" | "MiB" => some (1024 * 1024)
    | "MB" => some (1000 * 1000)
    | "G" | "GiB" => some (1024 * 1024 * 1024)
    | _ => none
  if ds.isEmpty then none else factor.map (Text.ofDigits ds * ·)

/-- How much of a file is meant: a number of lines or bytes, counted from its start or its end. -/
structure Extent where
  bytes : Bool := false
  fromStart : Bool
  count : Nat := 10

def expandCount (signs : List Char) : List Text → List Text
  | (sign :: c :: cs) :: args =>
    let ds := (c :: cs).takeWhile Char.isDigit
    let letters := (c :: cs).drop ds.length
    let value := if sign = '+' then '+' :: ds else ds
    if signs.contains sign && !ds.isEmpty &&
        letters.all fun l ↦ "clqv".toList.contains l then
      ['-', if letters.contains 'c' then 'c' else 'n'] :: value ::
        ((letters.filter fun l ↦ l = 'q' || l = 'v').map (['-', ·]) ++ args)
    else (sign :: c :: cs) :: args
  | args => args

/-- Reads the extent that options give; `mark` is the sign that changes the end from which to
count. -/
def extent? (g : Given) (mark : Char) (fromStart : Bool) : Except Text Extent :=
  match g.options.reverse.find? fun o ↦ o.1 = 'n' || o.1 = 'c' with
  | none => .ok { fromStart }
  | some (c, t) =>
    let turned : Bool := t.head? = some mark
    let body := if t.head? = some '-' then t.drop 1 else t
    match count? body with
    | some count => .ok { bytes := c = 'c', fromStart := fromStart != turned, count }
    | none => .error ("invalid number of ".toList ++
        (if c = 'c' then "bytes" else "lines").toList ++ ": ".toList ++ quoted t)

def putHeader (wanted : Bool) (isFirst : Bool) (path : Text) : ProcessM Unit := do
  if wanted then
    let path := if path = ['-'] then "standard input".toList else path
    put ((if isFirst then [] else ['\n']) ++ "==> ".toList ++ path ++ " <==\n".toList)

def headerWanted (g : Given) : Bool := g.has 'v' || (1 < g.operands.length && !g.has 'q')

def units (bytes : Bool) (t : Text) : List Text := if bytes then t.map ([·]) else rawLines t

def readLines (n : Nat) : Nat → ProcessM (Except FileFailure Text)
  | 0 => return .ok []
  | k + 1 => do
    match ← ProcessM.readLine n with
    | .error e => return .error e
    | .ok (t, complete) =>
      if complete then return (← readLines n k).map (t ++ ·) else return .ok t

def endOptions : Known := {
  letters := "qvfFz", valued := "nc"
  long := [("lines", 'n'), ("bytes", 'c'), ("quiet", 'q'), ("silent", 'q'), ("verbose", 'v'),
    ("follow", 'f')] }

def underHeaders (name : String) (g : Given) (use : Nat → ProcessM (Except FileFailure Text)) :
    ProcessM Nat := do
  let mut ok := true
  let mut isFirst := true
  for path in (if g.operands.isEmpty then [['-']] else g.operands) do
    match ← withFile path use with
    | .ok t =>
      putHeader (headerWanted g) isFirst path
      put t
      isFirst := false
    | .error e =>
      if e = .isDirectory then
        putHeader (headerWanted g) isFirst path
        isFirst := false
      complain name (cannotOpen path e)
      ok := false
  return status ok

def head : Tool := fun args ↦
  withOptions "head" endOptions 1 (fun g ↦ do
    match extent? g '-' true with
    | .error message =>
      complain "head" message
      return 1
    | .ok x =>
      underHeaders "head" g fun n ↦ do
        if !x.fromStart then
          return (← ProcessM.readAll n).map fun t ↦
            let us := units x.bytes t
            (us.take (us.length - x.count)).flatten
        else
          let t ← if x.bytes then ProcessM.readCount n x.count else readLines n x.count
          if 0 < x.count then ProcessM.discard n
          return t) (expandCount ['-'] args)

def tail : Tool := fun args ↦
  withOptions "tail" endOptions 1 (fun g ↦ do
    match extent? g '+' false with
    | .error message =>
      complain "tail" message
      return 1
    | .ok x =>
      let result ← underHeaders "tail" g fun n ↦ do
        return (← ProcessM.readAll n).map fun t ↦
          let us := units x.bytes t
          (us.drop (if x.fromStart then x.count - 1 else us.length - x.count)).flatten
      if g.has 'f' || g.has 'F' then ProcessM.changeProcess fun p ↦ { p with stuck := true }
      return result) (expandCount ['-', '+'] args)

def reverseLines : Tool :=
  withOptions "tac" { letters := "br", valued := "s" } 1 fun g ↦ do
    let (texts, ok) ← readFiles "tac" (fun path e ↦
      "failed to open ".toList ++ shellQuoted path ++ " for reading: ".toList ++ e.message) g.operands
    put (texts.flatMap fun p ↦ (rawLines p.2).reverse.flatten)
    return status ok

def mirrorLines : Tool := fun args ↦
  withOptions "rev" {} 1 (fun g ↦ do
    let (texts, ok) ← readFiles "rev" (fun path e ↦
      "cannot open ".toList ++ path ++ ": ".toList ++ e.message) g.operands
    put ((rawLines (texts.flatMap Prod.snd)).flatMap fun l ↦
      if l.getLast? = some '\n' then l.dropLast.reverse ++ ['\n'] else l.reverse)
    return status ok) args

def comparedPart (g : Given) (l : Text) : Text :=
  let number (c : Char) : Nat := ((g.value? c).map Text.ofDigits).getD 0
  let rec skip : Nat → Text → Text
    | 0, t => t
    | n + 1, t =>
      let isGap (c : Char) : Bool := c = ' ' || c = '\t'
      skip n ((t.dropWhile isGap).dropWhile fun c ↦ !isGap c)
  let t := (skip (number 'f') l).drop (number 's')
  let t := match g.value? 'w' with
    | some n => t.take (Text.ofDigits n)
    | none => t
  if g.has 'i' then t.map Char.toLower else t

def groupedBy (key : Text → Text) : List Text → List (List Text)
  | [] => []
  | l :: ls =>
    match groupedBy key ls with
    | [] => [[l]]
    | [] :: groups => [l] :: groups
    | (m :: ms) :: groups =>
      if key l = key m then (l :: m :: ms) :: groups else [l] :: (m :: ms) :: groups

def uniq : Tool :=
  withOptions "uniq" {
      letters := "cduDiz", valued := "fsw"
      long := [("count", 'c'), ("repeated", 'd'), ("unique", 'u'), ("ignore-case", 'i'),
        ("skip-fields", 'f'), ("skip-chars", 's'), ("check-chars", 'w')] } 1 fun g ↦ do
    let (texts, ok) ← readFiles "uniq" plainly (g.operands.take 1)
    if !ok then return 1
    let groups := groupedBy (comparedPart g) (linesOf (texts.flatMap Prod.snd))
    let groups := groups.filter fun ls ↦
      !(g.has 'd' && ls.length < 2) && !(g.has 'u' && 1 < ls.length) &&
        !(g.has 'D' && ls.length < 2)
    let result := groups.flatMap fun ls ↦
      let count := Text.ofNat ls.length
      let mark := if g.has 'c' then Text.spaces (7 - count.length) ++ count ++ [' '] else []
      (if g.has 'D' then ls else ls.take 1).map (mark ++ ·)
    match g.operands.drop 1 with
    | path :: _ =>
      match ← ProcessM.openFile .write path with
      | .ok n =>
        ProcessM.setDescriptor 1 (some n)
        putLines result
        return 0
      | .error e =>
        complain "uniq" (plainly path e)
        return 1
    | [] =>
      putLines result
      return 0

def compareSorted : Nat → List Text → List Text → List (Nat × Text)
  | 0, _, _ => []
  | _ + 1, [], ms => ms.map (2, ·)
  | _ + 1, ls, [] => ls.map (1, ·)
  | fuel + 1, l :: ls, m :: ms =>
    if l = m then (3, l) :: compareSorted fuel ls ms
    else if l < m then (1, l) :: compareSorted fuel ls (m :: ms)
    else (2, m) :: compareSorted fuel (l :: ls) ms

def comm : Tool :=
  withOptions "comm" { letters := "123z" } 1 fun g ↦ do
    match g.operands with
    | [a, b] =>
      let (texts, ok) ← readFiles "comm" plainly [a, b]
      match texts with
      | [(_, t), (_, u)] =>
        let ls := linesOf t
        let ms := linesOf u
        let column (n : Nat) : Char := Char.ofNat ('0'.toNat + n)
        putLines ((compareSorted (ls.length + ms.length + 1) ls ms).filterMap fun (n, l) ↦
          if g.has (column n) then none
          else some (((List.range n).filter fun k ↦ 0 < k && !g.has (column k)).map
            (fun _ ↦ '\t') ++ l))
        return status ok
      | _ => return 1
    | [] => misuse "comm" "missing operand".toList 1
    | [a] => misuse "comm" ("missing operand after ".toList ++ shellQuoted a) 1
    | _ :: _ :: c :: _ => misuse "comm" ("extra operand ".toList ++ shellQuoted c) 1

def countWords (t : Text) : Nat :=
  (t.foldl (fun (n, inside) c ↦
    let blank := c = ' ' || ('\t' ≤ c && c ≤ '\r')
    (if !blank && !inside then n + 1 else n, !blank)) (0, false)).1

def longestLine (t : Text) : Nat :=
  (linesOf t).foldl (fun longest l ↦
    max longest (l.foldl (fun w c ↦
      if c = '\t' then (w / 8 + 1) * 8 else if ' ' ≤ c && c ≤ '~' then w + 1 else w) 0)) 0

def counters : List (Char × (Text → Nat)) :=
  [('l', fun t ↦ t.count '\n'), ('w', countWords), ('m', List.length), ('c', List.length),
    ('L', longestLine)]

def wc : Tool :=
  withOptions "wc" {
      letters := "lwmcL"
      long := [("lines", 'l'), ("words", 'w'), ("chars", 'm'), ("bytes", 'c'),
        ("max-line-length", 'L')] } 1 fun g ↦ do
    let chosen := if g.options.isEmpty then ['l', 'w', 'c'] else g.options.map Prod.fst
    let counters := counters.filter fun k ↦ chosen.contains k.1
    let paths := if g.operands.isEmpty then [['-']] else g.operands
    let c ← get
    let size (path : Text) : Option (Option Nat) :=
      if path = ['-'] then
        match c.opened? 0 with
        | some (_, { channel := .file p, .. }) =>
          some ((c.files.content? p).map List.length)
        | some _ => some none
        | none => none
      else
        match c.find path with
        | .ok (.file f) => some (some f.content.length)
        | .ok _ => some none
        | .error _ => none
    let sizes := paths.filterMap size
    let digits := (Text.ofNat ((sizes.filterMap id).foldr (· + ·) 0)).length
    let width := if paths.length = 1 && counters.length = 1 then 1
      else if sizes.contains none then max 7 digits else digits
    let report (path : Option Text) (counts : List Nat) : Text :=
      let columns := counts.map fun n ↦
        let ds := Text.ofNat n
        Text.spaces (width - ds.length) ++ ds
      Text.join [' '] (columns ++ path.toList) ++ ['\n']
    let mut total := counters.map fun _ ↦ 0
    let mut ok := true
    for path in paths do
      let counts (t : Text) : List Nat := counters.map (·.2 t)
      let named := if g.operands.isEmpty then none else some path
      match ← readFile path with
      | .ok t =>
        put (report named (counts t))
        total := (total.zip (counts t)).map fun p ↦ p.1 + p.2
      | .error e =>
        complain "wc" (plainly path e)
        if e = .isDirectory then put (report named (counts []))
        ok := false
    if 1 < paths.length then put (report (some "total".toList) total)
    return status ok

def numberLines : Tool :=
  withOptions "nl" { letters := "p", valued := "bfhidlnsvw" } 1 fun g ↦ do
    let number (c : Char) (n : Nat) : Nat := ((g.value? c).map Text.ofDigits).getD n
    let width := number 'w' 6
    let separator := (g.value? 's').getD ['\t']
    let style := (g.value? 'b').getD ['t']
    let form := (g.value? 'n').getD "rn".toList
    let place (n : Nat) : Text :=
      let ds := Text.ofNat n
      if form = "ln".toList then ds ++ Text.spaces (width - ds.length)
      else List.replicate (width - ds.length) (if form = "rz".toList then '0' else ' ') ++ ds
    let numberLine (n : Nat) (l : Text) : Text × Nat :=
      let counted : Bool := style = ['a'] || (style = ['t'] && !l.isEmpty)
      if counted then (place n ++ separator ++ l ++ ['\n'], n + number 'i' 1)
      else (Text.spaces (width + separator.length) ++ l ++ ['\n'], n)
    let numberText (n : Nat) (t : Text) : Text × Nat :=
      let (ls, n) := (linesOf t).foldl (fun (done, n) l ↦
        let (l, n) := numberLine n l
        (l :: done, n)) (([] : List Text), n)
      (ls.reverse.flatten, n)
    return status (← filterEach "nl" plainly g.operands (number 'v' 1) numberText)

end PpiDump.Tool
