import PpiDump.Text.Lines

namespace PpiDump.Utf8

def encode (t : Text) : Bytes := t.flatMap String.utf8EncodeChar

def replacement : Char := Char.ofNat 0xFFFD

/-- Where the reader stands: between characters, or inside one, where the next byte has to lie
between `low` and `high`, `more` bytes follow it, and `code` is the number read so far. -/
inductive State where
  | start
  | inside (more low high code : Nat)
  deriving DecidableEq, Repr

def lead (b : Nat) : Text × State :=
  if b < 0x80 then ([Char.ofNat b], .start)
  else if b < 0xC2 then ([replacement], .start)
  else if b < 0xE0 then ([], .inside 0 0x80 0xBF (b - 0xC0))
  else if b = 0xE0 then ([], .inside 1 0xA0 0xBF 0)
  else if b = 0xED then ([], .inside 1 0x80 0x9F 0xD)
  else if b < 0xF0 then ([], .inside 1 0x80 0xBF (b - 0xE0))
  else if b = 0xF0 then ([], .inside 2 0x90 0xBF 0)
  else if b < 0xF4 then ([], .inside 2 0x80 0xBF (b - 0xF0))
  else if b = 0xF4 then ([], .inside 2 0x80 0x8F 4)
  else ([replacement], .start)

/-- Reads a byte. One that does not continue the open character ends it as U+FFFD and is read
again as the start of another. -/
def step : State → Nat → Text × State
  | .start, b => lead b
  | .inside more low high code, b =>
    if low ≤ b ∧ b ≤ high then
      match more with
      | 0 => ([Char.ofNat (code * 64 + (b - 0x80))], .start)
      | more + 1 => ([], .inside more 0x80 0xBF (code * 64 + (b - 0x80)))
    else (replacement :: (lead b).1, (lead b).2)

def decodeFrom : State → Bytes → Text
  | .start, [] => []
  | .inside .., [] => [replacement]
  | s, b :: rest => (step s b.toNat).1 ++ decodeFrom (step s b.toNat).2 rest

/-- Reads bytes as text, with U+FFFD for what is not UTF-8. -/
def decode (bytes : Bytes) : Text := decodeFrom .start bytes

/-- Reads bytes that are UTF-8 throughout: those that writing what was read gives back. -/
def decode? (bytes : Bytes) : Option Text :=
  let t := decode bytes
  if encode t = bytes then some t else none

def decodeLine (piece : Bytes) : Text := decode piece.withoutEnding

end PpiDump.Utf8
