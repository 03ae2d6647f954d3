import PpiDump.Json.Printer
import PpiDump.Tree.Branch

namespace PpiDump

open Json (Value)

def Payload.toJson : Payload → Value
  | .empty => .object [Value.field "type" (.text "empty".toList)]
  | .text content =>
    .object [Value.field "type" (.text "text".toList), Value.field "content" (.text content)]
  | .delimiters opening closing =>
    .object [Value.field "type" (.text "delimiters".toList), Value.field "start" (.text [opening]),
      Value.field "end" (.text [closing])]

def Node.toJson (node : Node) (children : List Value) : Value :=
  .object ([Value.field "id" (.nat node.id), Value.field "kind" (.text node.kind.tag),
    Value.field "level" (.nat node.level), Value.field "line" (.nat node.line),
    Value.field "payload" node.payload.toJson] ++
    if children.isEmpty then [] else [Value.field "children" (.array children)])

namespace Branch

mutual

def toJson (t : Tree) : Branch → Value
  | node h bs =>
    match t.get? h with
    | some n => n.toJson (allToJson t bs)
    | none => .null

def allToJson (t : Tree) : List Branch → List Value
  | [] => []
  | b :: bs => toJson t b :: allToJson t bs

end

end Branch

def Tree.exportText (t : Tree) : Except Error Text :=
  match t.root? with
  | none => .error .noDocument
  | some h =>
    match t.unfolding? h with
    | some b => .ok (b.toJson t).write
    | none => .error .endless

end PpiDump
