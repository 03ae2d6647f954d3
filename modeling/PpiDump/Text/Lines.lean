import PpiDump.Text.Basic

namespace PpiDump

/-- The lines of a text. What follows the last line feed is a line if it is not empty, and keeps
its carriage returns. -/
def Text.lines : Text → List Text
  | [] => []
  | '\n' :: rest => [] :: lines rest
  | '\r' :: '\n' :: rest => [] :: lines rest
  | c :: rest =>
    match lines rest with
    | [] => [[c]]
    | line :: more => (c :: line) :: more

namespace Bytes

def lineFeed : UInt8 := 0x0A

def carriageReturn : UInt8 := 0x0D

def pieces : Bytes → List Bytes
  | [] => []
  | b :: rest =>
    if b = lineFeed then [b] :: pieces rest
    else
      match pieces rest with
      | [] => [[b]]
      | piece :: more => (b :: piece) :: more

def dropLastIf (b : UInt8) (piece : Bytes) : Bytes :=
  if piece.getLast? = some b then piece.dropLast else piece

/-- A piece without its line feed and then without one carriage return. Also the last piece, which
may have no line feed, loses its carriage return. -/
def withoutEnding (piece : Bytes) : Bytes :=
  dropLastIf carriageReturn (dropLastIf lineFeed piece)

end Bytes

end PpiDump
