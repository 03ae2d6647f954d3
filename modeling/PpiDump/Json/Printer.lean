import PpiDump.Json.Value

namespace PpiDump.Json

def hexDigit (n : Nat) : Char := Nat.digitChar n

def escapeChar (c : Char) : Text :=
  if c = '"' then ['\\', '"']
  else if c = '\\' then ['\\', '\\']
  else if c = '\n' then ['\\', 'n']
  else if c = '\r' then ['\\', 'r']
  else if c = '\t' then ['\\', 't']
  else if c = '\x08' then ['\\', 'b']
  else if c = '\x0c' then ['\\', 'f']
  else if c.toNat < 0x20 then
    ['\\', 'u', '0', '0', hexDigit (c.toNat / 16), hexDigit (c.toNat % 16)]
  else [c]

/-- A string that is no text is written as half of a surrogate pair. -/
def writeString : Content → Text
  | some t => '"' :: t.flatMap escapeChar ++ ['"']
  | none => "\"\\ud800\"".toList

def newLine (depth : Nat) : Text := '\n' :: Text.spaces (2 * depth)

namespace Value

mutual

def writeAt (depth : Nat) : Value → Text
  | null => "null".toList
  | bool b => (if b then "true" else "false").toList
  | nat n => Text.ofNat n
  | number written => written
  | string content => writeString content
  | array [] => ['[', ']']
  | array (v :: vs) =>
    '[' :: newLine (depth + 1) ++ writeAt (depth + 1) v ++ writeItems depth vs ++ newLine depth ++
      [']']
  | object [] => ['\x7b', '\x7d']
  | object ((key, v) :: fs) =>
    '\x7b' :: newLine (depth + 1) ++ writeString key ++ [':', ' '] ++ writeAt (depth + 1) v ++
      writeFields depth fs ++ newLine depth ++ ['\x7d']

def writeItems (depth : Nat) : List Value → Text
  | [] => []
  | v :: vs => ',' :: newLine (depth + 1) ++ writeAt (depth + 1) v ++ writeItems depth vs

def writeFields (depth : Nat) : List (Content × Value) → Text
  | [] => []
  | (key, v) :: fs =>
    ',' :: newLine (depth + 1) ++ writeString key ++ [':', ' '] ++ writeAt (depth + 1) v ++
      writeFields depth fs

end

def write (v : Value) : Text := v.writeAt 0

end Value

end PpiDump.Json
