import PpiDump.Text.Basic

namespace PpiDump

structure Binary where
  negative : Bool := false
  mantissa : Nat
  exponent : Int := 0
  deriving DecidableEq, Repr

namespace Binary

def roundQuotient (a b : Nat) : Nat :=
  let q := a / b
  let twice := 2 * (a % b)
  if twice < b then q else if b < twice then q + 1 else q + q % 2

/-- The number with `bits` significant bits that is nearest to a quotient. -/
def ofQuotient (bits : Nat) (negative : Bool) (a b : Nat) : Binary :=
  if a = 0 then ⟨negative, 0, 0⟩
  else
    let scale : Int := (a.log2 : Int) - b.log2 - bits
    let scaled (e : Int) : Nat × Nat :=
      if e < 0 then (a * Nat.pow 2 e.natAbs, b) else (a, b * Nat.pow 2 e.natAbs)
    let (n, d) := scaled scale
    let e := if Nat.pow 2 bits ≤ n / d then scale + 1 else scale
    let (n, d) := scaled e
    let m := roundQuotient n d
    if m = Nat.pow 2 bits then ⟨negative, m / 2, e + 1⟩ else ⟨negative, m, e⟩

def quotient (x : Binary) : Nat × Nat :=
  if x.exponent < 0 then (x.mantissa, Nat.pow 2 x.exponent.natAbs)
  else (x.mantissa * Nat.pow 2 x.exponent.natAbs, 1)

def isZero (x : Binary) : Bool := x.mantissa = 0

def splitDigits (t : Text) : Text × Text :=
  let ds := t.takeWhile Char.isDigit
  (ds, t.drop ds.length)

def read? (bits : Nat) (t : Text) : Option (Binary × Text) :=
  let t := t.dropWhile fun c ↦ c = ' ' || ('\t' ≤ c && c ≤ '\r')
  let (negative, t) := match t with
    | '-' :: t => (true, t)
    | '+' :: t => (false, t)
    | t => (false, t)
  let (whole, t) := splitDigits t
  let (fraction, t) := match t with
    | '.' :: rest =>
      let (ds, after) := splitDigits rest
      if whole.isEmpty && ds.isEmpty then ([], t) else (ds, after)
    | t => ([], t)
  if whole.isEmpty && fraction.isEmpty then none
  else
    let (power, t) : Int × Text := match t with
      | c :: rest =>
        if c = 'e' || c = 'E' then
          let (minus, ds) := match rest with
            | '-' :: ds => (true, ds)
            | '+' :: ds => (false, ds)
            | ds => (false, ds)
          let (ds, after) := splitDigits ds
          if ds.isEmpty then (0, t)
          else (if minus then -(Text.ofDigits ds : Int) else Text.ofDigits ds, after)
        else (0, t)
      | [] => (0, t)
    let power := power - fraction.length
    let n := Text.ofDigits (whole ++ fraction)
    let power := max (-5000) (min 5000 power)
    some (if power < 0 then ofQuotient bits negative n (Nat.pow 10 power.natAbs)
      else ofQuotient bits negative (n * Nat.pow 10 power.natAbs) 1, t)

def padded (n k : Nat) : Text :=
  let ds := Text.ofNat k
  List.replicate (n - ds.length) '0' ++ ds

def pointed (places : Nat) (point : Bool) (ds : Text) : Text :=
  let whole := ds.take (ds.length - places)
  if places = 0 then if point then whole ++ ['.'] else whole
  else whole ++ '.' :: ds.drop (ds.length - places)

def fixed (x : Binary) (places : Nat) (point : Bool) : Text :=
  let (a, b) := x.quotient
  pointed places point (padded (places + 1) (roundQuotient (a * Nat.pow 10 places) b))

/-- The decimal exponent of a number that is not zero, and its digits with `places` of them after
the first, when it is rounded to so many. -/
def significant (x : Binary) (places : Nat) : Int × Text :=
  let (a, b) := x.quotient
  if a = 0 then (0, List.replicate (places + 1) '0')
  else
    let round (e : Int) : Nat :=
      let shift := (places : Int) - e
      if shift < 0 then roundQuotient a (b * Nat.pow 10 shift.natAbs)
      else roundQuotient (a * Nat.pow 10 shift.natAbs) b
    -- The number of digits of the quotient is right or one too high.
    let guess : Int := (Text.ofNat a).length - (Text.ofNat b).length
    let power := Nat.pow 10 guess.natAbs
    let e := if (if guess < 0 then a * power < b else a < b * power) then
      guess - 1 else guess
    let ds := Text.ofNat (round e)
    if ds.length = places + 2 then (e + 1, ds.dropLast) else (e, ds)

def exponentText (letter : Char) (e : Int) : Text :=
  letter :: (if e < 0 then '-' else '+') :: padded 2 e.natAbs

def scientific (x : Binary) (places : Nat) (point : Bool) (letter : Char) : Text :=
  let (e, ds) := x.significant places
  pointed places point ds ++ exponentText letter e

def dropZeros (t : Text) : Text :=
  if t.contains '.' then
    let t := (t.reverse.dropWhile (· = '0')).reverse
    if t.getLast? = some '.' then t.dropLast else t
  else t

def general (x : Binary) (digits : Nat) (keepZeros : Bool) (letter : Char) : Text :=
  let p := max 1 digits
  let (e, ds) := x.significant (p - 1)
  if -4 ≤ e && e < p then
    let t := x.fixed ((p : Int) - 1 - e).toNat keepZeros
    if keepZeros then t else dropZeros t
  else
    let t := pointed (p - 1) keepZeros ds
    (if keepZeros then t else dropZeros t) ++ exponentText letter e

end Binary

end PpiDump
