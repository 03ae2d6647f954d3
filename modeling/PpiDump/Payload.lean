import PpiDump.Error
import PpiDump.Kind
import PpiDump.Text.Layout

namespace PpiDump

inductive Payload where
  | empty
  | text (content : Text)
  | delimiters (opening closing : Char)
  deriving DecidableEq, Repr, Inhabited

namespace Payload

/-- Reads content by a rule. Only the rule for delimiters can fail; `id` labels its error. -/
def decode (rule : ContentRule) (content : Text) (id : Nat) : Except Error Payload :=
  match rule with
  | .nothing => .ok .empty
  | .delimiters =>
    match content with
    | [opening, _, _, _, _, _, closing] => .ok (.delimiters opening closing)
    | _ => .error (.bracketContent id content)
  | .layout => .ok (.text (Text.unescape (Text.inner content)))
  | .comment => .ok (.text (Text.unescapeComment content))
  | .verbatim => .ok (.text (Text.inner content))

def content? : Payload → Option Text
  | text content => some content
  | _ => none

def delimiters? : Payload → Option (Char × Char)
  | delimiters opening closing => some (opening, closing)
  | _ => none

end Payload

end PpiDump
