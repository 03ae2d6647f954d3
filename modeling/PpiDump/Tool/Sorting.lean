import PpiDump.Number.Binary
import PpiDump.Tool.Lines

namespace PpiDump.Tool

/-- A place in a line: a field and a character in it, both counted from one. As an end, character
zero is the last of the field. -/
structure KeyPlace where
  field : Nat
  char : Nat
  skipsBlanks : Bool := false

structure SortKey where
  start : KeyPlace := ⟨1, 1, false⟩
  finish : Option KeyPlace := none
  letters : Text := []

namespace SortKey

def orders : Text := "nghMVfdir".toList

def readPlace (t : Text) (char : Nat) : Option (KeyPlace × Text × Text) :=
  let field := t.takeWhile Char.isDigit
  let t := t.drop field.length
  let (char, t) := match t with
    | '.' :: rest =>
      let ds := rest.takeWhile Char.isDigit
      (Text.ofDigits ds, rest.drop ds.length)
    | t => (char, t)
  let letters := t.takeWhile Char.isAlpha
  if field.isEmpty || Text.ofDigits field = 0 then none
  else some (⟨Text.ofDigits field, char, letters.contains 'b'⟩, letters, t.drop letters.length)

def read? (t : Text) : Option SortKey :=
  match readPlace t 1 with
  | some (start, letters, []) => some { start, letters }
  | some (start, letters, ',' :: rest) =>
    match readPlace rest 0 with
    | some (finish, more, []) => some { start, finish := some finish, letters := letters ++ more }
    | _ => none
  | _ => none

end SortKey

namespace Sorting

def isBlank (c : Char) : Bool := c = ' ' || c = '\t' || c = '\n'

def fields (separator : Option Char) (l : Text) : List Text :=
  match separator with
  | some c => Text.splitOn c l
  | none => go (l.length + 1) l
where
  go : Nat → Text → List Text
    | 0, _ => []
    | fuel + 1, l =>
      let blanks := l.takeWhile isBlank
      let word := (l.drop blanks.length).takeWhile (!isBlank ·)
      let rest := l.drop (blanks.length + word.length)
      if rest.isEmpty then [blanks ++ word] else (blanks ++ word) :: go fuel rest

def before (separator : Option Char) (fs : List Text) (field : Nat) : Nat :=
  ((fs.take (field - 1)).map fun f ↦ f.length + if separator.isSome then 1 else 0).foldr (· + ·) 0

def startOf (separator : Option Char) (fs : List Text) (l : Text) (p : KeyPlace) : Nat :=
  let n := min l.length (before separator fs p.field)
  let n := if p.skipsBlanks then n + ((l.drop n).takeWhile isBlank).length else n
  min l.length (n + (p.char - 1))

def endOf (separator : Option Char) (fs : List Text) (l : Text) (p : KeyPlace) : Nat :=
  if p.char = 0 then
    min l.length (before separator fs p.field + ((fs[p.field - 1]?).getD []).length)
  else
    let n := min l.length (before separator fs p.field)
    let n := if p.skipsBlanks then n + ((l.drop n).takeWhile isBlank).length else n
    min l.length (n + p.char)

def part (separator : Option Char) (k : SortKey) (l : Text) : Text :=
  let fs := fields separator l
  let a := startOf separator fs l k.start
  match k.finish with
  | none => l.drop a
  | some p => (l.take (endOf separator fs l p)).drop a

structure Decimal where
  value : Int
  places : Nat

def Decimal.read (t : Text) : Decimal × Text :=
  let t := t.dropWhile isBlank
  let (negative, t) := match t with
    | '-' :: t => (true, t)
    | t => (false, t)
  let whole := t.takeWhile Char.isDigit
  let t := t.drop whole.length
  let fraction := match t with
    | '.' :: rest => rest.takeWhile Char.isDigit
    | _ => []
  let n : Int := Text.ofDigits (whole ++ fraction)
  (⟨if negative then -n else n, fraction.length⟩,
    t.drop (if fraction.isEmpty then 0 else fraction.length + 1))

def Decimal.order (a b : Decimal) : Ordering :=
  compare (a.value * Int.pow 10 b.places) (b.value * Int.pow 10 a.places)

inductive Measure where
  | text (t : Text)
  | decimal (d : Decimal)
  | scaled (sign power : Int) (d : Decimal)
  | quotient (x : Option (Int × Nat))
  | month (n : Nat)
  | version (parts : List (Text × Nat))

def orderTexts (a b : Text) : Ordering :=
  if a < b then .lt else if b < a then .gt else .eq

def orderVersions : List (Text × Nat) → List (Text × Nat) → Ordering
  | [], [] => .eq
  | [], _ => .lt
  | _, [] => .gt
  | a :: as, b :: bs =>
    ((orderTexts a.1 b.1).then (compare a.2 b.2)).then (orderVersions as bs)

def Measure.order : Measure → Measure → Ordering
  | .text a, .text b => orderTexts a b
  | .decimal a, .decimal b => a.order b
  | .scaled s p a, .scaled s' p' b =>
    (compare s s').then ((compare (s * p) (s' * p')).then (a.order b))
  | .quotient none, .quotient none => .eq
  | .quotient none, .quotient _ => .lt
  | .quotient _, .quotient none => .gt
  | .quotient (some (a, b)), .quotient (some (c, d)) => compare (a * d) (c * b)
  | .month a, .month b => compare a b
  | .version a, .version b => orderVersions a b
  | _, _ => .eq

def months : List Text :=
  ["JAN", "FEB", "MAR", "APR", "MAY", "JUN", "JUL", "AUG", "SEP", "OCT", "NOV", "DEC"].map
    String.toList

def versionParts : Nat → Text → List (Text × Nat)
  | 0, _ => []
  | _ + 1, [] => []
  | fuel + 1, t =>
    let word := t.takeWhile fun c ↦ !c.isDigit
    let rest := t.drop word.length
    let ds := rest.takeWhile Char.isDigit
    (word, Text.ofDigits ds) :: versionParts fuel (rest.drop ds.length)

def measure (letters : Text) (t : Text) : Measure :=
  if letters.contains 'n' then .decimal (Decimal.read t).1
  else if letters.contains 'h' then
    let (d, rest) := Decimal.read t
    let power : Nat := match rest.head? with
      | some c => (("KMGTPEZY".toList.findIdx? (· = c.toUpper)).map (· + 1)).getD 0
      | none => 0
    .scaled d.value.sign power ⟨d.value, d.places⟩
  else if letters.contains 'g' then
    .quotient ((Binary.read? 64 t).map fun (x, _) ↦
      let (a, b) := x.quotient
      (if x.negative then -(a : Int) else a, b))
  else if letters.contains 'M' then
    let name := ((t.dropWhile isBlank).take 3).map Char.toUpper
    .month (((months.findIdx? (· = name)).map (· + 1)).getD 0)
  else if letters.contains 'V' then .version (versionParts (t.length + 1) t)
  else
    let t := if letters.contains 'd' then t.filter fun c ↦ isBlank c || c.isAlphanum
      else if letters.contains 'i' then t.filter fun c ↦ ' ' ≤ c && c ≤ '~'
      else t
    .text (if letters.contains 'f' then t.map Char.toUpper else t)

structure Prepared where
  line : Text
  measures : List (Measure × Bool)

def orderByKeys (a b : Prepared) : Ordering :=
  (a.measures.zip b.measures).foldl (fun o (x, y) ↦
    o.then (if x.2 then (x.1.order y.1).swap else x.1.order y.1)) .eq

end Sorting

def sort : Tool :=
  withOptions "sort" {
      letters := "bdfghiMnrRVcCmsuz", valued := "koSTt"
      long := [("ignore-leading-blanks", 'b'), ("dictionary-order", 'd'), ("ignore-case", 'f'),
        ("general-numeric-sort", 'g'), ("human-numeric-sort", 'h'), ("month-sort", 'M'),
        ("numeric-sort", 'n'), ("reverse", 'r'), ("version-sort", 'V'), ("check", 'c'),
        ("key", 'k'), ("merge", 'm'), ("output", 'o'), ("stable", 's'),
        ("field-separator", 't'), ("unique", 'u'), ("zero-terminated", 'z')] } 2 fun g ↦ do
    let refuse (message : Text) : ProcessM Nat := do
      complain "sort" message
      return 2
    let separator ← match g.value? 't' with
      | none => pure (some none)
      | some [c] => pure (some (some c))
      | some t => pure (if t = "\\0".toList then some (some '\x00') else none)
    match separator with
    | none => refuse ("multi-character tab ".toList ++ quoted ((g.value? 't').getD []))
    | some separator =>
      let written := g.values 'k'
      let all := (g.options.map Prod.fst).filter fun c ↦ c = 'b' || SortKey.orders.contains c
      match written.find? fun k ↦ (SortKey.read? k).isNone with
      | some k => refuse ("invalid number at field start: invalid count at start of ".toList ++
          quoted k)
      | none =>
        let keys := written.filterMap SortKey.read?
        let keys := if keys.isEmpty then [{ letters := all }] else keys.map fun k ↦
          if k.letters.isEmpty then
            let b := all.contains 'b'
            { start := { k.start with skipsBlanks := b }
              finish := k.finish.map fun p ↦ { p with skipsBlanks := b }, letters := all }
          else k
        let keys := if written.isEmpty && all.contains 'b' then
            keys.map fun k ↦ { k with start := { k.start with skipsBlanks := true } }
          else keys
        let prepare (l : Text) : Sorting.Prepared :=
          ⟨l, keys.map fun k ↦
            (Sorting.measure k.letters (Sorting.part separator k l), k.letters.contains 'r')⟩
        let order (a b : Sorting.Prepared) : Ordering :=
          let o := Sorting.orderByKeys a b
          if g.has 's' || g.has 'u' then o
          else o.then (if all.contains 'r' then Sorting.orderTexts b.line a.line
            else Sorting.orderTexts a.line b.line)
        let feed := if g.has 'z' then '\x00' else '\n'
        let linesIn (t : Text) : List Text :=
          let ls := Text.splitOn feed t
          if ls.getLast? = some [] then ls.dropLast else ls
        let (texts, ok) ← readFiles "sort" (fun path e ↦
          (if e = .isDirectory then "read failed: " else "cannot read: ").toList ++
            shown path ++ ": ".toList ++ e.message) g.operands
        if !ok then return 2
        let lines := (texts.flatMap fun p ↦ linesIn p.2).map prepare
        if g.has 'c' || g.has 'C' then
          let rec firstBreak (n : Nat) : List Sorting.Prepared → Option (Nat × Text)
            | a :: b :: rest =>
              let o := order a b
              if o = .gt || (g.has 'u' && o = .eq) then some (n + 1, b.line)
              else firstBreak (n + 1) (b :: rest)
            | _ => none
          match firstBreak 1 lines with
          | none => return 0
          | some (n, l) =>
            if !g.has 'C' then
              complain "sort" (((g.operands.head?).getD ['-']) ++ ':' :: Text.ofNat n ++
                ": disorder: ".toList ++ l)
            return 1
        let sorted := lines.mergeSort fun a b ↦ order a b ≠ .gt
        let sorted := if g.has 'u' then sorted.foldr (fun a kept ↦
            match kept with
            | b :: rest => if Sorting.orderByKeys a b = .eq then a :: rest else a :: kept
            | [] => [a]) []
          else sorted
        let result := sorted.flatMap fun p ↦ p.line ++ [feed]
        match g.value? 'o' with
        | none =>
          put result
          return 0
        | some path =>
          match ← ProcessM.openFile .write path with
          | .ok n =>
            ProcessM.setDescriptor 1 (some n)
            put result
            return 0
          | .error e => refuse ("open failed: ".toList ++ plainly path e)

end PpiDump.Tool
