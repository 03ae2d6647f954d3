import PpiDump.Shell.Command

namespace PpiDump.Shell

inductive Glyph where
  /-- `quoted` takes away its meaning in patterns; where `splits` is set it may end a word. -/
  | char (c : Char) (quoted splits : Bool)
  | nothing
  | cut
  deriving DecidableEq, Repr

namespace Glyph

def ofText (quoted splits : Bool) (t : Text) : List Glyph :=
  if quoted && t.isEmpty then [.nothing] else t.map (.char · quoted splits)

def text (gs : List Glyph) : Text :=
  gs.filterMap fun
    | .char c .. => some c
    | .nothing => none
    | .cut => some ' '

end Glyph

namespace Pattern

inductive Item where
  | range (first last : Char)
  | sort (name : Text)
  deriving DecidableEq, Repr

inductive Element where
  | literal (c : Char)
  | one
  | any
  | set (negated : Bool) (items : List Item)
  deriving DecidableEq, Repr

def sorts : List Text :=
  ["alpha", "digit", "alnum", "upper", "lower", "space", "blank", "punct", "xdigit", "cntrl",
    "print", "graph"].map String.toList

def isOfSort (name : Text) (c : Char) : Bool :=
  let is (s : String) : Bool := name = s.toList
  if is "alpha" then c.isAlpha
  else if is "digit" then c.isDigit
  else if is "alnum" then c.isAlphanum
  else if is "upper" then c.isUpper
  else if is "lower" then c.isLower
  else if is "space" then c = ' ' || ('\t' ≤ c && c ≤ '\r')
  else if is "blank" then c = ' ' || c = '\t'
  else if is "punct" then '!' ≤ c && c ≤ '~' && !c.isAlphanum
  else if is "xdigit" then c.isDigit || ('a' ≤ c && c ≤ 'f') || ('A' ≤ c && c ≤ 'F')
  else if is "cntrl" then c < ' ' || c = '\x7f'
  else if is "print" then ' ' ≤ c && c ≤ '~'
  else if is "graph" then '!' ≤ c && c ≤ '~'
  else false

def Item.has (c : Char) : Item → Bool
  | range first last => first ≤ c && c ≤ last
  | sort name => isOfSort name c

def Element.fits (c : Char) : Element → Bool
  | literal d => c = d
  | one => true
  | any => true
  | set negated items => items.any (·.has c) != negated

def readItems : Nat → Bool → List (Char × Bool) → Option (List Item × List (Char × Bool))
  | 0, _, _ => none
  | fuel + 1, isFirst, s =>
    let after (i : Item) (rest : List (Char × Bool)) : Option (List Item × List (Char × Bool)) :=
      (readItems fuel false rest).map fun (is, rest) ↦ (i :: is, rest)
    match s with
    | [] => none
    | ('[', false) :: (':', false) :: rest =>
      let name := rest.takeWhile fun c ↦ c.1.isAlpha
      match rest.drop name.length with
      | (':', _) :: (']', _) :: rest => after (.sort (name.map Prod.fst)) rest
      | _ => after (.range '[' '[') ((':', false) :: rest)
    | (c, quoted) :: rest =>
      if c = ']' && !quoted && !isFirst then some ([], rest)
      else
        match rest with
        | ('-', false) :: (']', false) :: _ => after (.range c c) rest
        | ('-', false) :: (d, _) :: rest => after (.range c d) rest
        | rest => after (.range c c) rest

def elements : Nat → List (Char × Bool) → List Element
  | 0, _ => []
  | fuel + 1, s =>
    match s with
    | [] => []
    | ('*', false) :: rest => .any :: elements fuel rest
    | ('?', false) :: rest => .one :: elements fuel rest
    | ('[', false) :: rest =>
      let (negated, inside) := match rest with
        | ('!', false) :: rest => (true, rest)
        | ('^', false) :: rest => (true, rest)
        | rest => (false, rest)
      match readItems (inside.length + 1) true inside with
      | some (items, rest) => .set negated items :: elements fuel rest
      | none => .literal '[' :: elements fuel rest
    | (c, _) :: rest => .literal c :: elements fuel rest

def ofGlyphs (gs : List Glyph) : List Element :=
  let cs := gs.filterMap fun
    | .char c quoted _ => some (c, quoted)
    | _ => none
  elements (cs.length + 1) cs

def remainders : Text → List Text
  | [] => [[]]
  | c :: t => (c :: t) :: remainders t

def fits : List Element → Text → Bool
  | [], t => t.isEmpty
  | .any :: p, t => (remainders t).any (fits p)
  | _ :: _, [] => false
  | e :: p, c :: t => e.fits c && fits p t

/-- The lengths of the starts of a text for which a pattern stands, in increasing order. -/
def starts (p : List Element) (t : Text) : List Nat :=
  (List.range (t.length + 1)).filter fun n ↦ fits p (t.take n)

def trimStart (p : List Element) (longest : Bool) (t : Text) : Text :=
  let ns := starts p t
  match if longest then ns.getLast? else ns.head? with
  | some n => t.drop n
  | none => t

def trimEnd (p : List Element) (longest : Bool) (t : Text) : Text :=
  let ns := (List.range (t.length + 1)).filter fun n ↦ fits p (t.drop n)
  match if longest then ns.head? else ns.getLast? with
  | some n => t.take n
  | none => t

def change (spot : Spot) (p : List Element) (new t : Text) : Text :=
  match spot with
  | .start =>
    match (starts p t).getLast? with
    | some n => new ++ t.drop n
    | none => t
  | .finish =>
    match (List.range (t.length + 1)).find? fun n ↦ fits p (t.drop n) with
    | some n => t.take n ++ new
    | none => t
  | .first => go false (t.length + 1) t
  | .every => go true (t.length + 1) t
where
  go (every : Bool) : Nat → Text → Text
    | 0, t => t
    | fuel + 1, t =>
      match (starts p t).getLast? with
      | some (n + 1) =>
        new ++ if every then go every fuel (t.drop (n + 1)) else t.drop (n + 1)
      | _ =>
        match t with
        | [] => []
        | c :: t => c :: go every fuel t

def isMagic (gs : List Glyph) : Bool :=
  gs.any fun
    | .char c false _ => c = '*' || c = '?' || c = '['
    | _ => false

end Pattern

end PpiDump.Shell
