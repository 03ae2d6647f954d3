import Mathlib.Tactic.Choose
import PpiDump.Proofs.Entries
import PpiDump.Proofs.JsonText
import PpiDump.Proofs.Phases
import PpiDump.Tree.Export

namespace PpiDump

open Json (Value Content)

/-- What an export tells of a tree: the data of a node and of all below it, with no link. -/
inductive Account where
  | node (id : Nat) (kind : Kind) (level line : Nat) (payload : Payload) (below : List Account)

namespace Account

def fields (id : Nat) (kind : Kind) (level line : Nat) (payload : Payload) :
    List (Content × Value) :=
  [Value.field "id" (.nat id), Value.field "kind" (.text kind.tag),
    Value.field "level" (.nat level), Value.field "line" (.nat line),
    Value.field "payload" payload.toJson]

mutual

/-- The object of a node, with its children in it if it has any. -/
def toJson : Account → Value
  | node id kind level line payload [] => .object (fields id kind level line payload)
  | node id kind level line payload (a :: as) =>
    .object (fields id kind level line payload ++
      [Value.field "children" (.array (toJson a :: allToJson as))])

def allToJson : List Account → List Value
  | [] => []
  | a :: as => toJson a :: allToJson as

end

/-- The account of what is below a handle, as the lists of children give it. -/
inductive Of (t : Tree) : Handle → Account → Prop
  | node {h : Handle} {n : Node} (below : Handle → Account) (hget : t.get? h = some n)
      (hbelow : ∀ c ∈ n.children.toList, Of t c (below c)) :
      Of t h (.node n.id n.kind n.level n.line n.payload (n.children.toList.map below))

end Account

namespace Json.Value

theorem field_inj {key : String} {v v' : Value} : field key v = field key v' ↔ v = v' := by
  simp [field]

theorem text_inj {t t' : Text} : text t = text t' ↔ t = t' := by
  simp [text]

theorem plain_object {fs : List (Content × Value)}
    (h : ∀ f ∈ fs, ∃ key v, f = field key v ∧ v.Plain) : (object fs).Plain := by
  refine .object (fun f hf ↦ ?_) fun f hf ↦ ?_
  · obtain ⟨key, v, rfl, -⟩ := h f hf
    exact ⟨_, rfl⟩
  · obtain ⟨key, v, rfl, hv⟩ := h f hf
    exact hv

end Json.Value

namespace Payload

theorem toJson_plain (p : Payload) : p.toJson.Plain := by
  cases p <;> refine Value.plain_object fun f hf ↦ ?_
  case empty =>
    obtain rfl := List.mem_singleton.mp hf
    exact ⟨_, _, rfl, .text _⟩
  case text content =>
    simp only [List.mem_cons, List.not_mem_nil, or_false] at hf
    rcases hf with rfl | rfl <;> exact ⟨_, _, rfl, .text _⟩
  case delimiters opening closing =>
    simp only [List.mem_cons, List.not_mem_nil, or_false] at hf
    rcases hf with rfl | rfl | rfl <;> exact ⟨_, _, rfl, .text _⟩

theorem toJson_injective {p p' : Payload} (h : p.toJson = p'.toJson) : p = p' := by
  cases p <;> cases p' <;> simp_all [toJson, Value.field, Value.text]

end Payload

namespace Account

variable {t : Tree} {h : Handle} {a : Account}

theorem mem_fields {id : Nat} {kind : Kind} {level line : Nat} {payload : Payload}
    {f : Content × Value} (hf : f ∈ fields id kind level line payload) :
    ∃ key v, f = Value.field key v ∧ v.Plain := by
  simp only [fields, List.mem_cons, List.not_mem_nil, or_false] at hf
  rcases hf with rfl | rfl | rfl | rfl | rfl
  · exact ⟨_, _, rfl, .nat _⟩
  · exact ⟨_, _, rfl, .text _⟩
  · exact ⟨_, _, rfl, .nat _⟩
  · exact ⟨_, _, rfl, .nat _⟩
  · exact ⟨_, _, rfl, payload.toJson_plain⟩

theorem fields_injective {id id' : Nat} {kind kind' : Kind} {level level' line line' : Nat}
    {payload payload' : Payload}
    (h : fields id kind level line payload = fields id' kind' level' line' payload') :
    id = id' ∧ kind = kind' ∧ level = level' ∧ line = line' ∧ payload = payload' := by
  simp only [fields, List.cons.injEq, Value.field_inj, Value.text_inj, Value.nat.injEq,
    and_true] at h
  obtain ⟨hid, htag, hlevel, hline, hpayload⟩ := h
  exact ⟨hid, Kind.tag_injective htag, hlevel, hline, Payload.toJson_injective hpayload⟩

mutual

theorem toJson_plain : ∀ a : Account, a.toJson.Plain
  | node id kind level line payload [] => by
    rw [toJson]
    exact Value.plain_object fun f hf ↦ mem_fields hf
  | node id kind level line payload (a :: as) => by
    rw [toJson]
    refine Value.plain_object fun f hf ↦ ?_
    rcases List.mem_append.mp hf with hf | hf
    · exact mem_fields hf
    · obtain rfl := List.mem_singleton.mp hf
      refine ⟨_, _, rfl, .array fun v hv ↦ ?_⟩
      rcases List.mem_cons.mp hv with rfl | hv
      · exact toJson_plain a
      · exact allToJson_plain as v hv

theorem allToJson_plain : ∀ as : List Account, ∀ v ∈ allToJson as, v.Plain
  | [], v, hv => nomatch hv
  | a :: as, v, hv => by
    rcases List.mem_cons.mp hv with rfl | hv
    · exact toJson_plain a
    · exact allToJson_plain as v hv

end

mutual

theorem toJson_injective : ∀ {a a' : Account}, a.toJson = a'.toJson → a = a'
  | node id kind level line payload [], node id' kind' level' line' payload' [], h => by
    simp only [toJson, Value.object.injEq] at h
    obtain ⟨rfl, rfl, rfl, rfl, rfl⟩ := fields_injective h
    rfl
  | node id kind level line payload (a :: as),
      node id' kind' level' line' payload' (a' :: as'), h => by
    simp only [toJson, Value.object.injEq] at h
    obtain ⟨hfields, hchildren⟩ := List.append_inj h rfl
    obtain ⟨rfl, rfl, rfl, rfl, rfl⟩ := fields_injective hfields
    simp only [List.cons.injEq, Value.field_inj, Value.array.injEq, and_true] at hchildren
    rw [toJson_injective hchildren.1, allToJson_injective hchildren.2]
  | node id kind level line payload [], node id' kind' level' line' payload' (a' :: as'), h => by
    simp [toJson, fields] at h
  | node id kind level line payload (a :: as), node id' kind' level' line' payload' [], h => by
    simp [toJson, fields] at h

theorem allToJson_injective : ∀ {as as' : List Account}, allToJson as = allToJson as' → as = as'
  | [], [], _ => rfl
  | [], a' :: as', h => nomatch h
  | a :: as, [], h => nomatch h
  | a :: as, a' :: as', h => by
    simp only [allToJson, List.cons.injEq] at h
    rw [toJson_injective h.1, allToJson_injective h.2]

end

theorem toJson_node (n : Node) (as : List Account) :
    (node n.id n.kind n.level n.line n.payload as).toJson = n.toJson (allToJson as) := by
  cases as <;> simp [toJson, allToJson, Node.toJson, fields]

theorem allToJson_map {b : Handle → Branch} {below : Handle → Account} {cs : List Handle}
    (h : ∀ c ∈ cs, (b c).toJson t = (below c).toJson) :
    Branch.allToJson t (cs.map b) = allToJson (cs.map below) := by
  induction cs with
  | nil => rfl
  | cons c cs ih =>
    rw [List.map_cons, List.map_cons, Branch.allToJson, allToJson, h c List.mem_cons_self,
      ih fun c hc ↦ h c (List.mem_cons_of_mem _ hc)]

theorem Of.unfolds (ha : Of t h a) :
    ∃ b, Branch.Unfolds t b ∧ b.handle = h ∧ b.toJson t = a.toJson := by
  induction ha with
  | @node h n below hget _ ih =>
    have : Nonempty Branch := ⟨.node h []⟩
    choose! b hunfolds hhandle hjson using ih
    have hmap : n.children.toList = (n.children.toList.map b).map Branch.handle := by
      rw [List.map_map]
      exact ((List.map_congr_left hhandle).trans (List.map_id _)).symm
    refine ⟨.node h (n.children.toList.map b), .node hget hmap ?_, rfl, ?_⟩
    · intro b' hb'
      obtain ⟨c, hc, rfl⟩ := List.mem_map.mp hb'
      exact hunfolds c hc
    · simp only [Branch.toJson, hget]
      rw [toJson_node, allToJson_map hjson]

theorem exists_of_unfolds {b : Branch} (hb : b.Unfolds t) : ∃ a, Of t b.handle a := by
  induction hb with
  | @node h bs n hget hchildren _ ih =>
    have hbelow : ∀ c ∈ n.children.toList, ∃ a, Of t c a := by
      intro c hc
      rw [hchildren] at hc
      obtain ⟨b, hb, rfl⟩ := List.mem_map.mp hc
      exact ih b hb
    have : Nonempty Account := ⟨.node 0 .node 0 0 .empty []⟩
    choose! below hbelow using hbelow
    exact ⟨_, .node below hget hbelow⟩

end Account

namespace Tree

variable {t : Tree} {h : Handle} {a : Account}

theorem exportText_of_account (hroot : t.root? = some h) (ha : Account.Of t h a) :
    t.exportText = .ok a.toJson.write := by
  obtain ⟨b, hunfolds, hhandle, hjson⟩ := ha.unfolds
  rw [exportText, hroot]
  simp only [← hhandle, unfolding?_of_unfolds hunfolds, hjson]

theorem exportText_of_lines {lines : List Text} {stats : Stats}
    (h : Tree.ofLines? lines = .ok (t, stats)) :
    ∃ a, Account.Of t 0 a ∧ t.exportText = .ok a.toJson.write := by
  obtain ⟨b, -, hunfolds, hhandle⟩ := (Converter.convertible_of_lines h).branch
  obtain ⟨a, ha⟩ := Account.exists_of_unfolds hunfolds
  rw [hhandle] at ha
  exact ⟨a, ha, exportText_of_account (Converter.convertible_of_lines h).root ha⟩

end Tree

end PpiDump
