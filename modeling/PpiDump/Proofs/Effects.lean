import Mathlib.Data.List.Basic
import PpiDump.Host
import PpiDump.Text.Utf8

namespace PpiDump

/-- What can be seen of surroundings: the content of the files at some paths, and what was printed. -/
structure View (ω : Type) where
  paths : List Text
  sound : ω → Prop
  content : ω → Text → Option Bytes
  printed : ω → Bytes

structure Effect where
  /-- The files that were written. Nothing is known of those where that was not possible. -/
  touched : List (Text × Option Bytes) := []
  printed : Bytes := []

namespace Effect

def andThen (e e' : Effect) : Effect := ⟨e.touched ++ e'.touched, e.printed ++ e'.printed⟩

theorem andThen_nothing (e : Effect) : e.andThen {} = e := by
  simp [andThen]

def write (path? : Option Text) (content : Bytes) (ok : Bool) : Effect where
  touched := path?.toList.map fun path ↦ (path, if ok then some content else none)

def places (e : Effect) : List Text := e.touched.map Prod.fst

theorem places_andThen (e e' : Effect) : (e.andThen e').places = e.places ++ e'.places :=
  List.map_append

theorem places_write (path? : Option Text) (content : Bytes) (ok : Bool) :
    (write path? content ok).places = path?.toList := by
  cases path? <;> rfl

theorem places_write_subset {path : Text} {paths : List Text} (h : path ∈ paths) (content : Bytes)
    (ok : Bool) : (write path content ok).places ⊆ paths := by
  rw [places_write]
  exact List.cons_subset.mpr ⟨h, List.nil_subset _⟩

end Effect

variable {ω : Type}

namespace View

/-- All that can be seen to differ is what the effect tells of. -/
structure Leaves (v : View ω) (e : Effect) (w w' : ω) : Prop where
  sound : v.sound w'
  places : e.places ⊆ v.paths
  written : ∀ path content, (path, some content) ∈ e.touched → v.content w' path = some content
  others : ∀ path ∈ v.paths, path ∉ e.places → v.content w' path = v.content w path
  printed : v.printed w' = v.printed w ++ e.printed

variable {v : View ω} {e e' : Effect} {w w₁ w' : ω}

theorem leaves_nothing (h : v.sound w) : v.Leaves {} w w where
  sound := h
  places := List.nil_subset _
  written := fun _ _ hf ↦ nomatch hf
  others := fun _ _ _ ↦ rfl
  printed := (List.append_nil _).symm

theorem Leaves.andThen (h : v.Leaves e w w₁) (h' : v.Leaves e' w₁ w')
    (hapart : e.places.Disjoint e'.places) : v.Leaves (e.andThen e') w w' where
  sound := h'.sound
  places := by
    rw [Effect.places_andThen]
    exact List.append_subset.mpr ⟨h.places, h'.places⟩
  written := by
    intro path content hf
    rcases List.mem_append.mp hf with hf | hf
    · have hplace : path ∈ e.places := List.mem_map_of_mem hf
      rw [h'.others path (h.places hplace) fun hmem ↦ hapart hplace hmem]
      exact h.written path content hf
    · exact h'.written path content hf
  others := by
    intro path hpath hplaces
    rw [Effect.places_andThen, List.mem_append, not_or] at hplaces
    rw [h'.others path hpath hplaces.2, h.others path hpath hplaces.1]
  printed := by
    rw [h'.printed, h.printed, List.append_assoc]
    rfl

theorem Leaves.content_eq (h : v.Leaves {} w w') {path : Text} (hpath : path ∈ v.paths) :
    v.content w' path = v.content w path :=
  h.others path hpath fun hmem ↦ nomatch hmem

theorem Leaves.quietly (h : v.Leaves e w w₁) (h' : v.Leaves {} w₁ w') : v.Leaves e w w' := by
  have hboth := h.andThen h' (List.disjoint_nil_right _)
  rwa [Effect.andThen_nothing] at hboth

end View

/-- A host whose operations on files do what they are for, at paths that lead to different files. A
file may fail to be read or written at any time. -/
structure Host.Honors (host : Host (StateM ω)) (v : View ω) : Prop where
  readFile : ∀ {w path}, v.sound w → path ∈ v.paths → ∃ answer w',
    (host.readFile path).run w = (answer, w') ∧ (answer = none ∨ answer = v.content w path) ∧
      v.Leaves {} w w'
  writeFile : ∀ {w path} content, v.sound w → path ∈ v.paths → ∃ ok w',
    (host.writeFile path content).run w = (ok, w') ∧ v.Leaves (.write path content ok) w w'
  print : ∀ {w} t, v.sound w → ∃ w',
    (host.print t).run w = ((), w') ∧ v.Leaves { printed := Utf8.encode t } w w'
  log : ∀ {w} t, v.sound w → ∃ w', (host.log t).run w = ((), w') ∧ v.Leaves {} w w'

end PpiDump
