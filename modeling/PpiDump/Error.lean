import PpiDump.Text.Quoted

namespace PpiDump

inductive Error where
  | bracketContent (id : Nat) (content : Text)
  | unknownKind (name : Text)
  | levelJump (id : Nat) (before after : Nat)
  | badRoot (kind : Text) (level : Nat)
  | secondRoot (id : Nat)
  | emptyDump
  /-- A node is listed under another than its parent. -/
  | parentMismatch (child expected : Nat) (found : Option Nat)
  /-- Something has no end: a node below itself, a link that leads nowhere, or a program that is
  never done. -/
  | endless
  | noDocument
  | notStarted (program : Text)
  | timedOut (seconds : Nat)
  | badOptions
  | fileFailure
  deriving DecidableEq, Repr

namespace Error

def foundText : Option Nat → Text
  | none => "None".toList
  | some id => "Some(".toList ++ Text.ofNat id ++ ")".toList

def message : Error → Text
  | bracketContent id content =>
    "invalid structure content for node ".toList ++ Text.ofNat id ++ ": ".toList ++
      Text.quoted content ++ " (expected 7 characters)".toList
  | unknownKind name => "unknown node kind: ".toList ++ name
  | levelJump id before after =>
    "node ".toList ++ Text.ofNat id ++ " jumps from level ".toList ++ Text.ofNat before ++
      " to level ".toList ++ Text.ofNat after
  | badRoot kind level =>
    "first record must be a level 0 document, got ".toList ++ kind ++ " at level ".toList ++
      Text.ofNat level
  | secondRoot id => "node ".toList ++ Text.ofNat id ++ " is a second level 0 record".toList
  | emptyDump => "dump contained no records".toList
  | parentMismatch child expected found =>
    "bad parent: node ".toList ++ Text.ofNat child ++ " is listed under ".toList ++
      Text.ofNat expected ++ " but points at ".toList ++ foundText found
  | endless => "no end was found".toList
  | noDocument => "no document has been read".toList
  | notStarted program => "failed to start dump producer ".toList ++ program
  | timedOut seconds =>
    "dump producer did not finish within ".toList ++ Text.ofNat seconds ++ "s".toList
  | badOptions => "invalid options".toList
  | fileFailure => "file could not be read or written".toList

end Error

end PpiDump
