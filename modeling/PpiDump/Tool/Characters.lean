import PpiDump.Tool.Basic
import PpiDump.Shell.Pattern

namespace PpiDump.Tool

open Shell

inductive SetPart where
  | chars (cs : Text)
  | sort (name cs : Text)
  | again (c : Char) (count : Option Nat)

def allBytes : Text := (List.range 256).map Char.ofNat

def readSetChar : Text → Option (Char × Text)
  | [] => none
  | ['\\'] => some ('\\', [])
  | '\\' :: c :: t =>
    let isOctal (d : Char) : Bool := '0' ≤ d && d ≤ '7'
    if isOctal c then
      let ds := ((c :: t).take 3).takeWhile isOctal
      let value (ds : Text) : Nat := ds.foldl (fun n d ↦ 8 * n + (d.toNat - '0'.toNat)) 0
      let ds := if value ds < 256 then ds else ds.take 2
      some (Char.ofNat (value ds), (c :: t).drop ds.length)
    else
      let d := match c with
        | 'a' => '\x07'
        | 'b' => '\x08'
        | 'f' => '\x0c'
        | 'n' => '\n'
        | 'r' => '\r'
        | 't' => '\t'
        | 'v' => '\x0b'
        | c => c
      some (d, t)
  | c :: t => some (c, t)

def readTimes? (ds : Text) : Option (Option Nat) :=
  if ds.isEmpty then some none
  else if !ds.all Char.isDigit then none
  else
    let n := if ds.head? = some '0' then
        ds.foldl (fun n d ↦ 8 * n + (d.toNat - '0'.toNat)) 0
      else Text.ofDigits ds
    some (if n = 0 then none else some n)

def readBracketed (t : Text) : Option (SetPart × Text) :=
  match t with
  | '[' :: ':' :: rest =>
    let name := rest.takeWhile (· ≠ ':')
    if ":]".toList.isPrefixOf (rest.drop name.length) then
      some (.sort name (allBytes.filter (Pattern.isOfSort name)), rest.drop (name.length + 2))
    else none
  | '[' :: '=' :: c :: '=' :: ']' :: rest => some (.chars [c], rest)
  | '[' :: rest =>
    (readSetChar rest).bind fun (c, rest) ↦
      match rest with
      | '*' :: rest =>
        let ds := rest.takeWhile (· ≠ ']')
        if (rest.drop ds.length).isEmpty then none
        else (readTimes? ds).map fun n ↦ (.again c n, rest.drop (ds.length + 1))
      | _ => none
  | _ => none

def readSetParts : Nat → Text → Except Text (List SetPart)
  | 0, _ => .ok []
  | fuel + 1, t =>
    match readBracketed t with
    | some (part, rest) =>
      match part with
      | .sort name [] => .error ("invalid character class ".toList ++ quoted name)
      | part => (readSetParts fuel rest).map (part :: ·)
    | none =>
      match readSetChar t with
      | none => .ok []
      | some (c, '-' :: rest) =>
        match readSetChar rest with
        | none => .ok [.chars [c, '-']]
        | some (d, rest') =>
          if d < c then
            .error ("range-endpoints of ".toList ++
              quoted (t.take (t.length - rest'.length)) ++
              " are in reverse collating sequence order".toList)
          else
            let cs := allBytes.filter fun e ↦ c ≤ e && e ≤ d
            (readSetParts fuel rest').map (.chars cs :: ·)
      | some (c, rest) => (readSetParts fuel rest).map (.chars [c] :: ·)

def setChars (length : Nat) (parts : List SetPart) : Text :=
  let fixed := (parts.map fun
    | .chars cs => cs.length
    | .sort _ cs => cs.length
    | .again _ n => n.getD 0).foldr (· + ·) 0
  parts.flatMap fun
    | .chars cs => cs
    | .sort _ cs => cs
    | .again c n => List.replicate (n.getD (length - fixed)) c

def squeeze (cs : Text) : Option Char → Text → Text
  | _, [] => []
  | before, c :: t =>
    if before = some c && cs.contains c then squeeze cs before t else c :: squeeze cs (some c) t

def translate : Tool :=
  withOptions "tr" {
      letters := "cCdst", strict := true
      long := [("complement", 'c'), ("delete", 'd'), ("squeeze-repeats", 's'),
        ("truncate-set1", 't')] } 1 fun g ↦ do
    let deletes := g.has 'd'
    let squeezes := g.has 's'
    let least := if deletes == squeezes then 2 else 1
    let most := if deletes && !squeezes then 1 else 2
    let tellMore (message : Text) (more : String) : ProcessM Nat := do
      complain "tr" message
      let _ ← ProcessM.put 2 more.toList
      let _ ← ProcessM.put 2 "Try 'tr --help' for more information.\n".toList
      return 1
    match g.operands with
    | [] => misuse "tr" "missing operand".toList 1
    | first :: others =>
      if g.operands.length < least then
        tellMore ("missing operand after ".toList ++ shellQuoted first)
          (if squeezes then
            "Two strings must be given when both deleting and squeezing repeats.\n"
          else "Two strings must be given when translating.\n")
      else if most < g.operands.length then
        tellMore ("extra operand ".toList ++ shellQuoted (g.operands.getD most []))
          (if g.operands.length = 2 then
            "Only one string may be given when deleting without squeezing repeats.\n" else "")
      else
        let second := others.headD []
        match readSetParts (first.length + 1) first, readSetParts (second.length + 1) second with
        | .error e, _ | _, .error e =>
          complain "tr" e
          return 1
        | .ok parts, .ok parts' =>
          let set := setChars 0 parts
          let set := if g.has 'c' || g.has 'C' then allBytes.filter (!set.contains ·) else set
          let set' := setChars set.length parts'
          let translates := !deletes && !others.isEmpty
          if translates && set'.isEmpty && !g.has 't' then
            complain "tr" "when not truncating set1, string2 must be non-empty".toList
            return 1
          let target := if g.has 't' then set'
            else set' ++ List.replicate (set.length - set'.length) (set'.getLastD ' ')
          let table := (set.zip target).reverse
          let images := (List.range 256).map fun n ↦
            ((table.find? fun p ↦ p.1.toNat = n).map Prod.snd).getD (Char.ofNat n)
          let images := images.toArray
          let members := (List.range 256).map (fun n ↦ set.contains (Char.ofNat n)) |>.toArray
          let t ← ProcessM.readAll 0
          let t := t.toOption.getD []
          let t := if deletes then t.filter fun c ↦ !(members[c.toNat]?.getD false)
            else if translates then t.map fun c ↦ images[c.toNat]?.getD c
            else t
          put (if squeezes then squeeze (if others.isEmpty then set else set') none t else t)
          return 0

/-- Ranges of places, counted from one; none as an end means the end of the line. -/
def readRanges (what : String) (t : Text) : Except Text (List (Nat × Option Nat)) :=
  let pieces := (Text.splitOn ',' (t.map fun c ↦ if c = ' ' || c = '\t' then ',' else c))
  pieces.mapM fun piece ↦
    let low := piece.takeWhile Char.isDigit
    let rest := piece.drop low.length
    let invalid : Except Text (Nat × Option Nat) :=
      .error ((if what = "field" then "invalid field value " else
        "invalid byte/character position ").toList ++ quoted (piece.dropWhile Char.isDigit))
    let checked (a : Nat) (b : Option Nat) : Except Text (Nat × Option Nat) :=
      if a = 0 || b = some 0 then
        .error (if what = "field" then "fields are numbered from 1".toList
          else "byte/character positions are numbered from 1".toList)
      else if b.any (· < a) then .error "invalid decreasing range".toList
      else .ok (a, b)
    match rest with
    | [] =>
      if low.isEmpty then
        .error (if what = "field" then "fields are numbered from 1".toList
          else "byte/character positions are numbered from 1".toList)
      else checked (Text.ofDigits low) (some (Text.ofDigits low))
    | '-' :: high =>
      if !high.all Char.isDigit then invalid
      else if low.isEmpty && high.isEmpty then .error "invalid range with no endpoint: -".toList
      else checked (if low.isEmpty then 1 else Text.ofDigits low)
        (if high.isEmpty then none else some (Text.ofDigits high))
    | _ => invalid

def isInRanges (rs : List (Nat × Option Nat)) (n : Nat) : Bool :=
  rs.any fun r ↦ r.1 ≤ n && r.2.all (n ≤ ·)

def cut : Tool :=
  withOptions "cut" {
      letters := "snzC", valued := "bcfdO"
      long := [("bytes", 'b'), ("characters", 'c'), ("fields", 'f'), ("delimiter", 'd'),
        ("only-delimited", 's'), ("complement", 'C'), ("output-delimiter", 'O')] } 1 fun g ↦ do
    let lists := g.options.filter fun o ↦ "bcf".toList.contains o.1
    match lists with
    | [] => misuse "cut" "you must specify a list of bytes, characters, or fields".toList 1
    | _ :: _ :: _ => misuse "cut" "only one list may be specified".toList 1
    | [(letter, list)] =>
      let delimiter := (g.value? 'd').getD ['\t']
      if 1 < delimiter.length then
        misuse "cut" "the delimiter must be a single character".toList 1
      else
        match readRanges (if letter = 'f' then "field" else "byte") list with
        | .error e => misuse "cut" e 1
        | .ok ranges =>
          let chosen (n : Nat) : Bool := isInRanges ranges n != g.has 'C'
          let joiner := (g.value? 'O').getD (if letter = 'f' then delimiter else [])
          let numberedFrom {α : Type} (l : List α) : List (α × Nat) :=
            l.mapIdx fun i a ↦ (a, i + 1)
          let cutLine (l : Text) : Option Text :=
            if letter = 'f' then
              let separator := delimiter.headD '\x00'
              if !l.contains separator then if g.has 's' then none else some l
              else some (Text.join joiner
                (((numberedFrom (Text.splitOn separator l)).filter (chosen ·.2)).map Prod.fst))
            else if joiner.isEmpty then
              some (((numberedFrom l).filter (chosen ·.2)).map Prod.fst)
            else
              let runs := (numberedFrom l).foldl (fun (runs : List Text × Bool) p ↦
                if !chosen p.2 then (runs.1, false)
                else match runs with
                  | (r :: rs, true) => ((p.1 :: r) :: rs, true)
                  | (rs, _) => ([p.1] :: rs, true)) ([], false)
              some (Text.join joiner (runs.1.reverse.map List.reverse))
          filtering "cut" (fun t ↦ joinLines ((linesOf t).filterMap cutLine)) g.operands

def readDelimiters : Text → List Text
  | [] => []
  | '\\' :: c :: t =>
    (match c with
      | 'n' => ['\n']
      | 't' => ['\t']
      | '0' => []
      | c => [c]) :: readDelimiters t
  | c :: t => [c] :: readDelimiters t

def joinInTurn (ds : List Text) : Nat → List Text → Text
  | _, [] => []
  | _, [t] => t
  | n, t :: ts => t ++ (ds[n % max 1 ds.length]?).getD [] ++ joinInTurn ds (n + 1) ts

def paste : Tool :=
  withOptions "paste" {
      letters := "sz", valued := "d", long := [("delimiters", 'd'), ("serial", 's')] } 1 fun g ↦ do
    let ds := readDelimiters ((g.value? 'd').getD ['\t'])
    let paths := if g.operands.isEmpty then [['-']] else g.operands
    let shares := (paths.filter (· = ['-'])).length
    let named := paths.filter (· ≠ ['-'])
    let (texts, ok) ← if named.isEmpty then pure ([], true) else readFiles "paste" plainly named
    let input ← if shares = 0 then pure [] else do
      pure (linesOf ((← ProcessM.readAll 0).toOption.getD []))
    if !ok then return 1
    let files := texts.map fun p ↦ linesOf p.2
    let share (k : Nat) : List Text :=
      if g.has 's' then if k = 0 then input else []
      else (input.mapIdx fun i l ↦ (i, l)).filterMap fun (i, l) ↦
        if i % shares = k then some l else none
    let columns := (paths.foldl (fun (done, files, k) path ↦
      if path = ['-'] then (share k :: done, files, k + 1)
      else (files.headD [] :: done, files.drop 1, k)) (([] : List (List Text)), files, 0)).1.reverse
    if g.has 's' then
      putLines (columns.map (joinInTurn ds 0))
    else
      let height := (columns.map List.length).foldl max 0
      putLines ((List.range height).map fun i ↦
        joinInTurn ds 0 (columns.map fun column ↦ (column[i]?).getD []))
    return 0

def columnAfter (bytes : Bool) (column : Nat) (c : Char) : Nat :=
  if bytes then column + 1
  else if c = '\t' then (column / 8 + 1) * 8
  else if c = '\x08' then column - 1
  else if c = '\r' then 0
  else column + 1

def foldLine (bytes spaces : Bool) (width : Nat) : Nat → Text → List Text
  | 0, l => [l]
  | fuel + 1, l =>
    let fit := (l.foldl (fun (n, column, full) c ↦
      let column' := columnAfter bytes column c
      if full || width < column' then (n, column, true) else (n + 1, column', false))
      ((0 : Nat), 0, false)).1
    let fit := max 1 fit
    if l.length ≤ fit then [l]
    else
      let piece := l.take fit
      let kept := piece.reverse.dropWhile fun c ↦ c ≠ ' ' && c ≠ '\t'
      let piece := if spaces && !kept.isEmpty then kept.reverse else piece
      piece :: foldLine bytes spaces width fuel (l.drop piece.length)

def fold : Tool := fun args ↦
  let args := match args with
    | ('-' :: c :: cs) :: rest => if c.isDigit then ['-', 'w'] :: (c :: cs) :: rest else args
    | args => args
  withOptions "fold" {
      letters := "bs", valued := "w"
      long := [("bytes", 'b'), ("spaces", 's'), ("width", 'w')] } 1 (fun g ↦ do
    let written := (g.value? 'w').getD "80".toList
    if written.isEmpty || !written.all Char.isDigit || Text.ofDigits written = 0 then
      complain "fold" ("invalid number of columns: ".toList ++ quoted written)
      return 1
    let width := Text.ofDigits written
    let foldText (t : Text) : Text := (rawLines t).flatMap fun l ↦
      let feed : Bool := l.getLast? = some '\n'
      let body := if feed then l.dropLast else l
      Text.join ['\n'] (foldLine (g.has 'b') (g.has 's') width (body.length + 1) body) ++
        if feed then ['\n'] else []
    filtering "fold" foldText g.operands) args

def expand : Tool :=
  withOptions "expand" { letters := "i", valued := "t", long := [("tabs", 't')] } 1 fun g ↦ do
    let stop := max 1 (((g.value? 't').map Text.ofDigits).getD 8)
    let expandText (t : Text) : Text :=
      (t.foldl (fun (done, column) c ↦
        if c = '\t' then
          let n := stop - column % stop
          (Text.spaces n ++ done, column + n)
        else if c = '\n' then (c :: done, 0)
        else if c = '\x08' then (c :: done, column - 1)
        else (c :: done, column + 1)) (([] : Text), 0)).1.reverse
    filtering "expand" expandText g.operands

structure Blanks where
  column : Nat := 0
  active : Bool := true
  after : Bool := false
  pending : Text := []
  single : Bool := false
  done : Text := []

namespace Blanks

def write (b : Blanks) (c : Char) (blank whole : Bool) : Blanks :=
  let pending := if b.single && 1 < b.pending.length then '\t' :: b.pending.drop 1 else b.pending
  { b with
    done := c :: pending.reverse ++ b.done, pending := [], single := false, after := blank
    active := b.active && (whole || blank) }

def step (whole : Bool) (stop : Nat) (b : Blanks) (c : Char) : Blanks :=
  let next := (b.column / stop + 1) * stop
  if c = '\n' then { (b.write c false whole) with column := 0, active := true, after := false }
  else if !b.active then { b with done := c :: b.done }
  else if c = '\t' then
    let pending := if b.single then ['\t'] else []
    { b with column := next, pending }.write '\t' true whole
  else if c = ' ' then
    let b := { b with column := b.column + 1 }
    if b.after && b.column = next then
      { b with pending := if b.single then ['\t'] else [] }.write '\t' true whole
    else
      { b with single := b.single || b.column = next, pending := b.pending ++ [c], after := true }
  else
    let column := if c = '\x08' then b.column - 1 else b.column + 1
    { b with column }.write c false whole

end Blanks

def unexpand : Tool :=
  withOptions "unexpand" {
      letters := "af", valued := "t"
      long := [("all", 'a'), ("first-only", 'f'), ("tabs", 't')] } 1 fun g ↦ do
    let stop := max 1 (((g.value? 't').map Text.ofDigits).getD 8)
    let whole := (g.has 'a' || g.has 't') && !g.has 'f'
    filtering "unexpand" (fun t ↦
      let b := t.foldl (Blanks.step whole stop) {}
      (b.pending.reverse ++ b.done).reverse) g.operands

def inGroups {α : Type} (n : Nat) : Nat → List α → List (List α)
  | 0, _ => []
  | _ + 1, [] => []
  | fuel + 1, l => l.take (max 1 n) :: inGroups n fuel (l.drop (max 1 n))

def base64Digits : Array Char :=
  "ABCDEFGHIJKLMNOPQRSTUVWXYZabcdefghijklmnopqrstuvwxyz0123456789+/".toList.toArray

def encodeBase64 : Text → Text
  | a :: b :: c :: t => digits4 (a.toNat * 65536 + b.toNat * 256 + c.toNat) ++ encodeBase64 t
  | [a, b] => (digits4 (a.toNat * 65536 + b.toNat * 256)).take 3 ++ ['=']
  | [a] => (digits4 (a.toNat * 65536)).take 2 ++ ['=', '=']
  | [] => []
where
  digits4 (n : Nat) : Text :=
    [n / 262144, n / 4096, n / 64, n].map fun k ↦ base64Digits[k % 64]?.getD 'A'

def decodeBase64 (t : Text) : Text × Bool :=
  let t := t.filter (· ≠ '\n')
  let ds := t.takeWhile base64Digits.contains
  let padding := t.drop ds.length
  let values := ds.map fun c ↦ (base64Digits.findIdx? (· = c)).getD 0
  let bytes := (inGroups 4 (values.length + 1) values).flatMap fun vs ↦
    let n := (vs ++ List.replicate (4 - vs.length) 0).foldl (fun n v ↦ 64 * n + v) 0
    [n / 65536 % 256, n / 256 % 256, n % 256].take (vs.length - 1) |>.map Char.ofNat
  (bytes, padding.all (· = '=') && (ds.length + padding.length) % 4 = 0)

def base64 : Tool :=
  withOptions "base64" {
      letters := "di", valued := "w"
      long := [("decode", 'd'), ("wrap", 'w'), ("ignore-garbage", 'i')] } 1 fun g ↦ do
    let (texts, ok) ← readFiles "base64" plainly (g.operands.take 1)
    if !ok then return 1
    let t := texts.flatMap Prod.snd
    if g.has 'd' then
      let t := if g.has 'i' then t.filter fun c ↦ base64Digits.contains c || c = '=' else t
      let (bytes, ok) := decodeBase64 t
      put bytes
      if !ok then complain "base64" "invalid input".toList
      return status ok
    else
      let ds := encodeBase64 t
      let width := ((g.value? 'w').map Text.ofDigits).getD 76
      if width = 0 then put ds else putLines (inGroups width (ds.length + 1) ds)
      return 0

structure UnitForm where
  kind : Char
  size : Nat

namespace UnitForm

def usualSize (kind : Char) : Nat := if kind = 'c' || kind = 'a' then 1 else 4

def readAll : Text → List UnitForm
  | [] => []
  | [kind] => [⟨kind, usualSize kind⟩]
  | kind :: c :: t =>
    if c.isDigit then ⟨kind, c.toNat - '0'.toNat⟩ :: readAll t
    else ⟨kind, usualSize kind⟩ :: readAll (c :: t)

def radix (f : UnitForm) : Nat := if f.kind = 'o' then 8 else if f.kind = 'x' then 16 else 10

def width (f : UnitForm) : Nat :=
  if f.kind = 'c' || f.kind = 'a' then 3
  else (Nat.toDigits f.radix (Nat.pow 256 f.size - 1)).length + if f.kind = 'd' then 1 else 0

def charText (c : Char) : Text :=
  match c with
  | '\x00' => "\\0".toList
  | '\x07' => "\\a".toList
  | '\x08' => "\\b".toList
  | '\t' => "\\t".toList
  | '\n' => "\\n".toList
  | '\x0b' => "\\v".toList
  | '\x0c' => "\\f".toList
  | '\r' => "\\r".toList
  | c => if ' ' ≤ c && c ≤ '~' then [c] else (escaped c).drop 1

def show' (f : UnitForm) (bytes : Text) : Text :=
  let padLeft (c : Char) (t : Text) : Text := List.replicate (f.width - t.length) c ++ t
  if f.kind = 'c' || f.kind = 'a' then padLeft ' ' (charText (bytes.headD ' '))
  else
    let n := bytes.foldr (fun c n ↦ 256 * n + c.toNat) 0
    let half := Nat.pow 256 f.size / 2
    if f.kind = 'd' && half ≤ n then padLeft ' ' ('-' :: Text.ofNat (Nat.pow 256 f.size - n))
    else
      padLeft (if f.kind = 'd' || f.kind = 'u' then ' ' else '0') (Nat.toDigits f.radix n)

end UnitForm

def octalDump : Tool :=
  withOptions "od" {
      letters := "bcdoxvais", valued := "AtNjw"
      long := [("address-radix", 'A'), ("format", 't'), ("read-bytes", 'N'), ("skip-bytes", 'j'),
        ("output-duplicates", 'v'), ("width", 'w')] } 1 fun g ↦ do
    let (texts, ok) ← readFiles "od" plainly g.operands
    let skipped := ((g.value? 'j').map Text.ofDigits).getD 0
    let t := (texts.flatMap Prod.snd).drop skipped
    let t := match g.value? 'N' with
      | some n => t.take (Text.ofDigits n)
      | none => t
    let forms := g.options.flatMap fun (c, value) ↦
      match c with
      | 't' => UnitForm.readAll value
      | 'b' => [⟨'o', 1⟩]
      | 'c' => [⟨'c', 1⟩]
      | 'd' => [⟨'u', 2⟩]
      | 'o' => [⟨'o', 2⟩]
      | 'x' => [⟨'x', 2⟩]
      | 'a' => [⟨'a', 1⟩]
      | 's' => [⟨'d', 2⟩]
      | 'i' => [⟨'d', 4⟩]
      | _ => []
    let forms := if forms.isEmpty then [⟨'o', 2⟩] else forms
    let perLine := ((g.value? 'w').map Text.ofDigits).getD 16
    let address (n : Nat) : Text :=
      let (radix, width) := match g.value? 'A' with
        | some ['d'] => (10, 7)
        | some ['x'] => (16, 6)
        | some ['n'] => (10, 0)
        | _ => (8, 7)
      if width = 0 then []
      else
        let ds := Nat.toDigits radix n
        List.replicate (width - ds.length) '0' ++ ds
    let largest := (forms.map UnitForm.size).foldl max 1
    let block := (forms.map fun f ↦ (f.width + 1) * (largest / max 1 f.size)).foldl max 0
    let cell (f : UnitForm) (i : Nat) : Nat :=
      let n := largest / max 1 f.size
      let gap := block - f.width * n
      let k := n - i % n
      f.width + (gap * k / n - gap * (k - 1) / n)
    let indent := Text.spaces (address 0).length
    let lineOf (n : Nat) (bytes : Text) : Text :=
      (forms.mapIdx fun i f ↦
        let units := (inGroups f.size (bytes.length + 1) bytes).mapIdx fun k u ↦
          let s := f.show' u
          Text.spaces (cell f k - s.length) ++ s
        (if i = 0 then address n else indent) ++ units.flatten ++ ['\n']).flatten
    let rec lines (before : Option Text) (starred : Bool) (n : Nat) : List Text → List Text
      | [] => if (address n).isEmpty then [] else [address n ++ ['\n']]
      | bytes :: rest =>
        let next := n + bytes.length
        if before = some bytes && bytes.length = perLine && !g.has 'v' && !rest.isEmpty then
          (if starred then [] else ["*\n".toList]) ++ lines before true next rest
        else lineOf n bytes :: lines (some bytes) false next rest
    put (lines none false skipped (inGroups perLine (t.length + 1) t)).flatten
    return status ok

end PpiDump.Tool
