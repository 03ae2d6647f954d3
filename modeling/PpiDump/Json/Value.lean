import PpiDump.Text.Basic

namespace PpiDump.Json

/-- What a string holds, if it is a text. -/
abbrev Content := Option Text

inductive Value where
  | null
  | bool (b : Bool)
  | nat (n : Nat)
  | number (written : Text)
  | string (content : Content)
  | array (items : List Value)
  | object (fields : List (Content × Value))
  deriving Repr, Inhabited

namespace Value

def text (t : Text) : Value := .string (some t)

def field (key : String) (v : Value) : Content × Value := (some key.toList, v)

end Value

end PpiDump.Json
