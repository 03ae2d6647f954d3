import PpiDump.Tool.Directories
import PpiDump.Tool.Regex

namespace PpiDump.Tool

namespace Search

structure Query where
  regex : Regex
  nothing : Bool := false
  ignoreCase : Bool
  negated : Bool
  given : Given

def matchesLine (q : Query) (l : Text) : Bool :=
  (!q.nothing && (q.regex.find? q.ignoreCase l).isSome) != q.negated

def partsOf (q : Query) : Nat → Text → Text → List Text
  | 0, _, _ => []
  | fuel + 1, seen, t =>
    match Regex.findAfter? q.ignoreCase q.regex seen t with
    | none => []
    | some f =>
      if f.text.isEmpty then
        match f.rest with
        | [] => []
        | c :: rest => partsOf q fuel (seen ++ f.start ++ [c]) rest
      else f.text :: partsOf q fuel (seen ++ f.start ++ f.text) f.rest

def readPattern (fixed extended : Bool) (t : Text) : Except Text Regex :=
  if fixed then .ok (.sequence (t.map .char))
  else
    match Regex.read { extended } t with
    | .ok (.sequence [.set false items]) =>
      let isColon (i : Option Shell.Pattern.Item) : Bool := i = some (.range ':' ':')
      if isColon items.head? && 1 < items.length && isColon items.getLast? then
        .error "character class syntax is [[:space:]], not [:space:]".toList
      else .ok (.sequence [.set false items])
    | .ok r => .ok r
    | .error f => .error f.message

def bounded (words lines : Bool) (r : Regex) : Regex :=
  if lines then .sequence [.lineStart, r, .lineEnd]
  else if words then .sequence [.apart true, r, .apart false]
  else r

/-- The lines that are told, with the ones around them: the number of each, whether it matches, and
whether there is a gap before it. -/
def withContext (before after : Nat) (ls : List (Nat × Text × Bool)) :
    List (Nat × Text × Bool × Bool) :=
  let hits := (ls.filter fun l ↦ l.2.2).map Prod.fst
  let near (n : Nat) : Bool := hits.any fun h ↦ (h ≤ n && n ≤ h + after) || (n ≤ h && h ≤ n + before)
  let kept := ls.filter fun l ↦ l.2.2 || ((0 < before || 0 < after) && near l.1)
  (kept.foldl (fun (done, last) l ↦
    ((l.1, l.2.1, l.2.2, decide (last ≠ 0 ∧ last + 1 < l.1)) :: done, l.1))
    (([] : List (Nat × Text × Bool × Bool)), 0)).1.reverse

def takeHits (limit : Option Nat) (negated : Bool) : List (Nat × Text × Bool) →
    List (Nat × Text × Bool)
  | [] => []
  | l :: ls =>
    match limit with
    | some 0 => []
    | some (n + 1) =>
      if l.2.2 then l :: takeHits (some n) negated ls else l :: takeHits limit negated ls
    | none => l :: takeHits none negated ls

structure Finding where
  hit : Bool
  output : Text := []
  complaint : Option Text := none

def searchText (q : Query) (named : Bool) (name t : Text) : Finding :=
  let g := q.given
  let ls := (linesOf t).mapIdx fun i l ↦ (i + 1, l, matchesLine q l)
  let ls := takeHits ((g.value? 'm').map Text.ofDigits) q.negated ls
  let hits := ls.filter fun l ↦ l.2.2
  let hit := !hits.isEmpty
  let nameEnd (mark : Char) : Char := if g.has 'Z' then '\x00' else mark
  let label (mark : Char) : Text := if named then name ++ [nameEnd mark] else []
  let number (mark : Char) (n : Nat) : Text := if g.has 'n' then Text.ofNat n ++ [mark] else []
  if g.has 'q' then { hit }
  else if g.has 'L' then { hit, output := if hit then [] else name ++ [nameEnd '\n'] }
  else if g.has 'l' then { hit, output := if hit then name ++ [nameEnd '\n'] else [] }
  else if g.has 'c' then { hit, output := label ':' ++ Text.ofNat hits.length ++ ['\n'] }
  else if hit && t.contains '\x00' && !g.has 'a' && !g.has 'z' then
    { hit, complaint := some (name ++ ": binary file matches".toList) }
  else if g.has 'o' then
    let output := if q.negated then [] else hits.flatMap fun (n, l, _) ↦
      (partsOf q (l.length + 1) [] l).flatMap fun part ↦
        label ':' ++ number ':' n ++ part ++ ['\n']
    { hit, output }
  else
    let size (c : Char) : Nat := (((g.value? c).or (g.value? 'C')).map Text.ofDigits).getD 0
    let withGaps := 0 < size 'B' || 0 < size 'A'
    let output := (withContext (size 'B') (size 'A') ls).flatMap fun (n, l, hit, gap) ↦
      let mark := if hit then ':' else '-'
      (if gap && withGaps then "--\n".toList else []) ++ label mark ++ number mark n ++ l ++ ['\n']
    { hit, output }

def usage (first : Option Text) : ProcessM Nat := do
  if let some message := first then complain "grep" message
  let _ ← ProcessM.put 2 ("Usage: grep [OPTION]... PATTERNS [FILE]...\n" ++
    "Try 'grep --help' for more information.\n").toList
  return 2

def known : Known := {
  letters := "EFGPiyvwxczZlLqsnhHorRabUTu", valued := "efmABCdD"
  long := [("extended-regexp", 'E'), ("fixed-strings", 'F'), ("basic-regexp", 'G'),
    ("perl-regexp", 'P'), ("ignore-case", 'i'), ("invert-match", 'v'), ("word-regexp", 'w'),
    ("line-regexp", 'x'), ("count", 'c'), ("files-with-matches", 'l'),
    ("files-without-match", 'L'), ("quiet", 'q'), ("silent", 'q'), ("no-messages", 's'),
    ("line-number", 'n'), ("no-filename", 'h'), ("with-filename", 'H'), ("only-matching", 'o'),
    ("recursive", 'r'), ("text", 'a'), ("regexp", 'e'), ("file", 'f'), ("max-count", 'm'),
    ("after-context", 'A'), ("before-context", 'B'), ("context", 'C'), ("null-data", 'z'), ("null", 'Z'),
    ("color", 'u'), ("colour", 'u'), ("line-buffered", 'u')] }

def filesBelow (paths : List Text) : ProcessM (List Text) := do
  let fs := (← get).files
  let mut found : List (List Text) := []
  for t in paths do
    match ← entryAt t with
    | .ok (p, .directory) =>
      let inner := (fs.below p).filterMap fun e ↦
        match e.2 with
        | .file _ =>
          let tail := (e.1.drop p.length).flatMap fun n ↦ '/' :: Bytes.toChars (Utf8.encode n)
          some (t ++ tail)
        | _ => none
      found := inner :: found
    | _ => found := [t] :: found
  return found.reverse.flatten

end Search

open Search in
def search (letters : List Char) : Tool := fun args ↦ do
  let args := args.map fun a ↦
    match a with
    | '-' :: c :: cs => if c.isDigit && cs.all Char.isDigit then "-C".toList ++ (c :: cs) else a
    | a => a
  match readArguments known args with
  | .error message => usage (some message)
  | .ok g =>
    let g := { g with options := g.options ++ letters.map (·, []) }
    let written := g.values 'e'
    let files := g.values 'f'
    let (patterns, operands) : Option (List Text) × List Text :=
      if written.isEmpty && files.isEmpty then (g.operands.head?.map ([·]), g.operands.drop 1)
      else (some written, g.operands)
    match patterns with
    | none => usage none
    | some patterns =>
      let (fromFiles, ok) ← if files.isEmpty then pure ([], true)
        else readFiles "grep" plainly files
      if !ok then return 2
      let patterns := patterns.flatMap (Text.splitOn '\n') ++ fromFiles.flatMap fun p ↦ linesOf p.2
      let kind := (g.options.reverse.find? fun o ↦ "EFGP".toList.contains o.1).map Prod.fst
      let extended := kind = some 'E' || kind = some 'P'
      let patterns := if kind = some 'P' then
          patterns.map (Text.substitute "\\d".toList "[0-9]".toList)
        else patterns
      let read ← match patterns.mapM (readPattern (kind = some 'F') extended) with
        | .ok read => pure read
        | .error message =>
          complain "grep" message
          return 2
      let either : Regex := match read with
        | [r] => r
        | rs => .either rs
      let q : Query := {
        regex := bounded (g.has 'w') (g.has 'x') either
        nothing := patterns.isEmpty
        ignoreCase := g.has 'i' || g.has 'y', negated := g.has 'v', given := g }
      let recursive := g.has 'r' || g.has 'R'
      let paths ← if recursive then
          if operands.isEmpty then do pure ((← filesBelow [['.']]).map (·.drop 2))
          else filesBelow operands
        else pure (if operands.isEmpty then [['-']] else operands)
      let named := (1 < operands.length || recursive || g.has 'H') && !g.has 'h'
      let mut outputs : List Text := []
      let mut found := false
      let mut ok := true
      for path in paths do
        let stops := found && g.has 'q'
        if !stops then
          let taken ← if path = ['-'] then ProcessM.takeAhead 0
            else do pure ((← readFile path).map (·, some 0))
          match taken with
          | .error e =>
            put outputs.reverse.flatten
            outputs := []
            if !g.has 's' then complain "grep" (path ++ ": ".toList ++ e.message)
            ok := false
          | .ok (t, closing) =>
            let name := if path = ['-'] then "(standard input)".toList else path
            let finding := searchText q named name t
            if let some message := finding.complaint then complain "grep" message
            found := found || finding.hit
            outputs := finding.output :: outputs
            if !(finding.hit && (g.has 'q' || g.has 'l' || g.has 'm')) then
              ProcessM.waitForEnd closing
      put outputs.reverse.flatten
      return if found && (ok || g.has 'q') then 0 else if !ok then 2 else 1

end PpiDump.Tool
