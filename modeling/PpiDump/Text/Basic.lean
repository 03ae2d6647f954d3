namespace PpiDump

abbrev Text := List Char

abbrev Bytes := List UInt8

namespace Text

/-- Drops `skip` characters, then replaces every occurrence of `old` that does not overlap an
earlier one, from the left. -/
def substituteAfter (old new : Text) : Nat → Text → Text
  | _, [] => []
  | skip + 1, _ :: rest => substituteAfter old new skip rest
  | 0, c :: rest =>
    if old.isPrefixOf (c :: rest) then new ++ substituteAfter old new (old.length - 1) rest
    else c :: substituteAfter old new 0 rest

def substitute (old new t : Text) : Text := substituteAfter old new 0 t

def hasPart (part : Text) : Text → Bool
  | [] => part.isEmpty
  | c :: rest => part.isPrefixOf (c :: rest) || hasPart part rest

def ofNat (n : Nat) : Text := Nat.toDigits 10 n

def ofDigits (ds : Text) : Nat := ds.foldl (fun n c ↦ 10 * n + (c.toNat - '0'.toNat)) 0

def spaces (n : Nat) : Text := List.replicate n ' '

def splitOn (separator : Char) : Text → List Text
  | [] => [[]]
  | c :: rest =>
    match splitOn separator rest with
    | [] => [[c]]
    | part :: parts => if c = separator then [] :: part :: parts else (c :: part) :: parts

def join (separator : Text) (ts : List Text) : Text := separator.intercalate ts

def le : Text → Text → Bool
  | [], _ => true
  | _ :: _, [] => false
  | a :: s, b :: t => a < b || (a = b && le s t)

def after? : Text → Text → Option Text
  | [], t => some t
  | _ :: _, [] => none
  | a :: start, c :: t => if a = c then after? start t else none

def dropEndWhile (p : Char → Bool) (t : Text) : Text := (t.reverse.dropWhile p).reverse

def inner (t : Text) : Text := t.tail.dropLast

end Text

namespace Bytes

def toChars (bs : Bytes) : Text := bs.map fun b ↦ Char.ofNat b.toNat

def ofChars (t : Text) : Bytes := t.map fun c ↦ UInt8.ofNat c.toNat

end Bytes

end PpiDump
