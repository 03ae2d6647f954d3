import PpiDump.Tool.Basic
import PpiDump.Tool.Conditions
import PpiDump.Tool.Format

namespace PpiDump.Tool

def succeed : Tool := fun _ ↦ return 0

def fail : Tool := fun _ ↦ return 1

def echo : Tool := fun args ↦ do
  put (Format.echoWithOptions args)
  return 0

def printf : Tool := fun args ↦ do
  let args := if args.head? = some ['-', '-'] then args.drop 1 else args
  match args with
  | [] => misuse "printf" "missing operand".toList 1
  | format :: args =>
    let p := Format.print .extended format args
    put p.text
    p.messages.reverse.forM (complain "printf")
    return status p.messages.isEmpty

def test : Tool := fun args ↦ do
  match Conditions.evaluate true (← get) args with
  | .ok b => return status b
  | .error message =>
    complain "test" message
    return 2

def bracket : Tool := fun args ↦ do
  if args.getLast? = some [']'] then test args.dropLast
  else
    complain "[" "missing ']'".toList
    return 2

def duration? (t : Text) : Option Nat :=
  match Binary.read? 64 t with
  | some (x, rest) =>
    let unit := match rest with
      | [] => some 1
      | ['s'] => some 1
      | ['m'] => some 60
      | ['h'] => some 3600
      | ['d'] => some 86400
      | _ => none
    if x.negative then none
    else unit.map fun u ↦ let (a, b) := x.quotient; Binary.roundQuotient (a * u * 1000) b
  | none => if t = "inf".toList || t = "infinity".toList then some (Nat.pow 10 15) else none

def sleep : Tool :=
  withOptions "sleep" {} 1 fun g ↦ do
    match g.operands with
    | [] => misuse "sleep" "missing operand".toList 1
    | ts =>
      match ts.find? fun t ↦ (duration? t).isNone with
      | some t => misuse "sleep" ("invalid time interval ".toList ++ quoted t) 1
      | none =>
        ProcessM.waitUntil ((← ProcessM.clock) + (ts.filterMap duration?).foldr (· + ·) 0)
        return 0

end PpiDump.Tool
