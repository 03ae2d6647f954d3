import PpiDump.Proofs.Echo
import PpiDump.Proofs.JsonText
import PpiDump.Proofs.Phases

namespace PpiDump

namespace Text

theorem splitOn_eq (c : Char) (t : Text) : splitOn c t = List.splitOn c t := by
  induction t with
  | nil => rfl
  | cons a t ih =>
    have hcons : List.splitOn c (a :: t) = _ := List.splitOnP_cons_eq_if_modifyHead a t
    rw [splitOn, ih, hcons, ← List.splitOn]
    cases hparts : List.splitOn c t with
    | nil => exact absurd hparts (List.splitOnP_ne_nil _ _)
    | cons part parts => by_cases h : a = c <;> simp [h]

theorem join_cons (separator first : Text) (parts : List Text) :
    join separator (first :: parts) = first ++ parts.flatMap (separator ++ ·) := by
  induction parts generalizing first with
  | nil => rw [join, List.intercalate_singleton, List.flatMap_nil, List.append_nil]
  | cons part parts ih =>
    rw [join, List.intercalate_cons_cons, ← join, ih, List.append_assoc, List.flatMap_cons,
      List.append_assoc]

end Text

namespace Note

theorem find?_set (n : Note) (key value : Text) : (n.set key value).find? key = some value := by
  obtain ⟨context, output, closing⟩ := n
  simp only [set, find?]
  induction context with
  | nil => simp [setKey]
  | cons e es ih =>
    rw [setKey]
    split
    · simp
    · rw [List.find?_cons_of_neg (by simpa using ‹_›), ih]

end Note

/-- The path with these places: `0` for the root, then a dot and a place for each step. -/
def pathText (is : List Nat) : Text := '0' :: is.flatMap fun i ↦ '.' :: Text.ofNat i

def places (path : Text) : List Nat := (Text.splitOn '.' path).tail.map Text.ofDigits

variable {is : List Nat} {i : Nat}

theorem pathText_snoc (is : List Nat) (i : Nat) :
    pathText (is ++ [i]) = pathText is ++ ['.'] ++ Text.ofNat i := by
  simp [pathText]

theorem splitOn_pathText (is : List Nat) :
    Text.splitOn '.' (pathText is) = ['0'] :: is.map Text.ofNat := by
  have hjoin : pathText is = Text.join ['.'] (['0'] :: is.map Text.ofNat) := by
    rw [Text.join_cons, List.flatMap_map]
    rfl
  have hparts : ∀ part ∈ ['0'] :: is.map Text.ofNat, '.' ∉ part := by
    intro part hpart hdot
    have hdigit : ('.').isDigit := by
      rcases List.mem_cons.mp hpart with rfl | hpart
      · cases List.mem_singleton.mp hdot
      · obtain ⟨i, -, rfl⟩ := List.mem_map.mp hpart
        exact Text.isDigit_of_mem_ofNat hdot
    exact absurd hdigit (by decide)
  rw [Text.splitOn_eq, hjoin, Text.join, List.splitOn_intercalate _ hparts (List.cons_ne_nil _ _)]

theorem places_pathText (is : List Nat) : places (pathText is) = is := by
  have hdigits : Text.ofDigits ∘ Text.ofNat = id := funext Text.ofDigits_ofNat
  rw [places, splitOn_pathText, List.tail_cons, List.map_map, hdigits, List.map_id]

theorem pathText_injective : Function.Injective pathText :=
  Function.LeftInverse.injective places_pathText

namespace Tree

/-- The places of the nodes on the way from the root to a node, each in the list of children of the
node's parent. -/
inductive Steps (t : Tree) : Handle → List Nat → Prop
  | root {h : Handle} (hroot : t.root? = some h) : Steps t h []
  | child {p c : Handle} {is : List Nat} {i : Nat} (hp : Steps t p is)
      (hparent : t.parent? c = some p) (hplace : (t.children p)[i]? = some c) :
      Steps t c (is ++ [i])

/-- The node that these places lead to from the root. -/
def descend (t : Tree) (is : List Nat) : Option Handle :=
  t.root?.bind fun root ↦ is.foldlM (fun h i ↦ (t.children h)[i]?) root

variable {t : Tree} {h p : Handle} {ns : List Node}

theorem Steps.descend_eq (hh : t.Steps h is) : t.descend is = some h := by
  induction hh with
  | root hroot => simp [descend, hroot]
  | child _ _ hplace ih =>
    obtain ⟨root, hroot, hfold⟩ := Option.bind_eq_some_iff.mp ih
    simp [descend, hroot, hfold, hplace]

theorem Steps.linked_level (hs : Levels.Stepped (levelsOf ns)) (hh : (linked ns).Steps h is) :
    (linked ns).level h = is.length := by
  induction hh with
  | @root h hroot =>
    obtain rfl : h = 0 := by simpa [hroot] using linked_root? ns
    exact linked_level_zero hs
  | child _ hparent _ ih =>
    rw [linked_level_of_parent? hs hparent, ih, List.length_append, List.length_singleton]

theorem linked_place (hs : Levels.Stepped (levelsOf ns)) (hh : h < ns.length) :
    (linked ns).parent? h = none ∧ (linked ns).root? = some h ∨
      ∃ p i, p < h ∧ (linked ns).parent? h = some p ∧
        ((linked ns).children p).idxOf? h = some i ∧ ((linked ns).children p)[i]? = some h := by
  cases hp : (levelsOf ns).parent? h with
  | none =>
    have hlevel : (levelsOf ns)[h]? = some ns[h].level := by simp [hh]
    obtain rfl := (hs.parent?_eq_none_iff hlevel).mp hp
    refine .inl ⟨(linked_parent? ns 0).trans hp, linked_root?_of_ne_nil ?_⟩
    exact List.ne_nil_of_length_pos hh
  | some p =>
    have hmem := (mem_linked_children hs p h).mpr hp
    obtain ⟨i, hi⟩ := Option.isSome_iff_exists.mp (Array.isSome_idxOf?.mpr hmem)
    refine .inr ⟨p, i, hs.parent?_lt hp, (linked_parent? ns h).trans hp, hi, ?_⟩
    generalize (linked ns).children p = cs at hi ⊢
    obtain ⟨cs⟩ := cs
    rw [List.idxOf?_toArray] at hi
    obtain ⟨hlt, hget, -⟩ := List.idxOf?_eq_some_iff.mp hi
    rw [List.getElem?_toArray, List.getElem?_eq_getElem hlt, hget]

end Tree

namespace Translator.Echo

/-- At a node, the path is noted that leads there from the root. -/
def Located (t : Tree) (notes : Notes) (h : Handle) : Prop :=
  ∃ is, t.Steps h is ∧ (notes.note h).find? pathKey = some (pathText is)

/-- What the path to a node is made from is there: its place at its parent and the parent's path. -/
def Found (t : Tree) (notes : Notes) (h : Handle) : Prop :=
  ∀ p, t.parent? h = some p →
    ((t.children p).idxOf? h).isSome ∧ ((notes.note p).find? pathKey).isSome

/-- In these notes, paths are addresses of the nodes of a tree. -/
structure Addressed (t : Tree) (notes : Notes) : Prop where
  located : ∀ h, h < t.size → Located t notes h
  components : ∀ h path, h < t.size → (notes.note h).find? pathKey = some path →
    (Text.splitOn '.' path).length = t.level h + 1
  leads_back : ∀ h path, h < t.size → (notes.note h).find? pathKey = some path →
    t.descend (places path) = some h
  distinct : ∀ h h', h < t.size → h' < t.size →
    (notes.note h).find? pathKey = (notes.note h').find? pathKey → h = h'

variable {σ : Type} {t : Tree} {notes notes' : Notes} {h : Handle} {ns : List Node}

theorem Located.of_eq (hfind : (notes'.note h).find? pathKey = (notes.note h).find? pathKey)
    (hh : Located t notes h) : Located t notes' h := by
  obtain ⟨is, hsteps, hpath⟩ := hh
  exact ⟨is, hsteps, hfind.trans hpath⟩

theorem Located.path_eq {path : Text} (hh : Located t notes h)
    (hpath : (notes.note h).find? pathKey = some path) :
    ∃ is, t.Steps h is ∧ path = pathText is := by
  obtain ⟨is, hsteps, hpath'⟩ := hh
  exact ⟨is, hsteps, Option.some.inj (hpath.symm.trans hpath')⟩

theorem Located.isSome (hh : Located t notes h) : ((notes.note h).find? pathKey).isSome := by
  obtain ⟨is, -, hpath⟩ := hh
  rw [hpath]
  rfl

theorem addressed_linked (hs : Levels.Stepped (levelsOf ns))
    (hall : ∀ h, h < ns.length → Located (Tree.linked ns) notes h) :
    Addressed (Tree.linked ns) notes := by
  rw [← Tree.linked_size ns] at hall
  refine ⟨hall, ?_, ?_, ?_⟩
  · intro h path hh hpath
    obtain ⟨is, hsteps, rfl⟩ := (hall h hh).path_eq hpath
    rw [splitOn_pathText, List.length_cons, List.length_map, hsteps.linked_level hs]
  · intro h path hh hpath
    obtain ⟨is, hsteps, rfl⟩ := (hall h hh).path_eq hpath
    rw [places_pathText, hsteps.descend_eq]
  · intro h h' hh hh' heq
    obtain ⟨is, hsteps, hpath⟩ := hall h hh
    obtain ⟨is', hsteps', hsame⟩ := (hall h' hh').path_eq (heq.symm.trans hpath)
    obtain rfl := pathText_injective hsame
    exact Option.some.inj (hsteps.descend_eq.symm.trans hsteps'.descend_eq)

theorem path_linked (hs : Levels.Stepped (levelsOf ns)) (hh : h < ns.length)
    (hbefore : ∀ p, p < h → Located (Tree.linked ns) notes p) :
    Found (Tree.linked ns) notes h ∧
      ∃ is, (Tree.linked ns).Steps h is ∧ path (Tree.linked ns) notes h = pathText is := by
  rcases Tree.linked_place hs hh with ⟨hparent, hroot⟩ | ⟨p, i, hlt, hparent, hindex, hplace⟩
  · refine ⟨?_, [], .root hroot, ?_⟩
    · intro p hp
      cases hparent.symm.trans hp
    · rw [path, hparent]
      rfl
  · obtain ⟨is, hsteps, hpath⟩ := hbefore p hlt
    refine ⟨?_, is ++ [i], hsteps.child hparent hplace, ?_⟩
    · intro p' hp'
      obtain rfl := Option.some.inj (hparent.symm.trans hp')
      exact ⟨Option.isSome_of_eq_some hindex, (hbefore p hlt).isSome⟩
    · simp only [path, hparent, hindex, hpath, Option.getD_some, pathText_snoc]

theorem run_analyze_linked (hs : Levels.Stepped (levelsOf ns)) (d : Draft σ)
    (hsize : d.notes.size = ns.length) {k : Nat} (hk : k ≤ ns.length) :
    ∃ d', Visit.run echo.analyze (Tree.linked ns) (List.range k) d = (d', none) ∧
      d'.state = d.state ∧ d'.notes.size = ns.length ∧
      ∀ h, h < k → Located (Tree.linked ns) d'.notes h := by
  induction k with
  | zero => exact ⟨d, rfl, rfl, hsize, fun h hh ↦ absurd hh (Nat.not_lt_zero h)⟩
  | succ k ih =>
    obtain ⟨d', hrun, hstate, hsize', hlocated⟩ := ih (Nat.le_of_succ_le hk)
    obtain ⟨-, is, hsteps, hpath⟩ := path_linked hs hk hlocated
    let value := path (Tree.linked ns) d'.notes k
    refine ⟨{ d' with notes := d'.notes.update k (·.set pathKey value) }, ?_, hstate, ?_, ?_⟩
    · rw [List.range_succ, Visit.run_append_ok hrun]
      rfl
    · exact (Notes.size_update ..).trans hsize'
    · intro h hh
      have hnote := Notes.note_update d'.notes k h (·.set pathKey value) (hsize'.symm ▸ hk)
      rcases Nat.lt_succ_iff_lt_or_eq.mp hh with hlt | rfl
      · rw [if_neg hlt.ne'] at hnote
        exact (hlocated h hlt).of_eq (congrArg (·.find? pathKey) hnote)
      · rw [if_pos rfl] at hnote
        refine ⟨is, hsteps, ?_⟩
        rw [hnote, Note.find?_set]
        exact congrArg some hpath

theorem run_analyze_found (hs : Levels.Stepped (levelsOf ns)) (hne : ns ≠ []) (d : Draft σ)
    (hsize : d.notes.size = ns.length) {before after : List Handle}
    (hpreorder : (Tree.linked ns).preorder = before ++ h :: after) :
    ∃ d', Visit.run echo.analyze (Tree.linked ns) before d = (d', none) ∧
      Found (Tree.linked ns) d'.notes h := by
  rw [(Tree.linked_preorder hs hne).2, List.range_eq_range', List.range'_eq_append_iff] at hpreorder
  obtain ⟨k, hk, rfl, hrest⟩ := hpreorder
  obtain ⟨hh, hpos, -⟩ := List.range'_eq_cons_iff.mp hrest.symm
  obtain rfl : k = h := by omega
  have hlt : k < ns.length := Nat.lt_of_sub_pos hpos
  obtain ⟨d', hrun, -, -, hlocated⟩ := run_analyze_linked hs d hsize hk
  refine ⟨d', ?_, (path_linked hs hlt hlocated).1⟩
  rw [← List.range_eq_range', hrun]

theorem find?_written (t : Tree) (h : Handle) (n : Note) (key : Text) :
    (written t h n).find? key = n.find? key := by
  unfold written
  cases t.get? h with
  | none => rfl
  | some node => cases hpayload : node.payload <;> simp [write, hpayload, Note.find?]

end Translator.Echo

namespace Converter

open Builder Translator Translator.Echo

variable {σ ω : Type} {c : Converter σ} {ns : List Node} {notes : Notes}

theorem analyze_paths (hc : c.translator = .echo) (hs : Levels.Stepped (levelsOf ns))
    (hne : ns ≠ []) (hsize : notes.size = ns.length) :
    ∃ notes' : Notes, notes'.size = ns.length ∧ Addressed (Tree.linked ns) notes' ∧
      c.analyze ⟨Tree.linked ns, notes⟩ =
        ⟨{ c with document? := some ⟨Tree.linked ns, notes'⟩ }, c.progress .analyzing,
          .ok ⟨Tree.linked ns, notes'⟩⟩ := by
  obtain ⟨d, hrun, hstate, hsize', hlocated⟩ :=
    run_analyze_linked hs ⟨c.state, notes⟩ hsize le_rfl
  refine ⟨d.notes, hsize', addressed_linked hs hlocated, ?_⟩
  simp only [analyze, visitAll, hc, (Tree.linked_preorder hs hne).2, hrun, hstate]

theorem generate_paths (hc : c.translator = .echo) (hs : Levels.Stepped (levelsOf ns))
    (hsize : notes.size = ns.length) (hnotes : Addressed (Tree.linked ns) notes) :
    ∃ notes' : Notes, notes'.size = ns.length ∧ Addressed (Tree.linked ns) notes' ∧
      (c.generate ⟨Tree.linked ns, notes⟩).converter =
        { c with document? := some ⟨Tree.linked ns, notes'⟩ } := by
  obtain ⟨d, hrun, hstate, hsize', hnote⟩ := run_generate (Tree.linked ns) (Tree.linked ns).flat
    ⟨c.state, notes⟩ (hsize.trans (Tree.linked_size ns).symm)
  rw [Tree.linked_size] at hsize'
  refine ⟨d.notes, hsize', addressed_linked hs ?_, ?_⟩
  · intro h hh
    refine (hnotes.located h (Tree.linked_size ns ▸ hh)).of_eq ?_
    rw [hnote]
    split
    · exact find?_written _ _ _ _
    · rfl
  · simp only [generate, visitAll, hc, hrun, hstate, Outcome.andThen]

theorem convert_paths (host : Host (StateM ω)) (hc : c.translator = .echo)
    (hs : Levels.Stepped (levelsOf ns)) (hne : ns ≠ []) (hsize : notes.size = ns.length)
    (hdocument : c.document? = some ⟨Tree.linked ns, notes⟩) (w : ω) :
    ∃ notes' : Notes, notes'.size = ns.length ∧ Addressed (Tree.linked ns) notes' ∧
      ((c.convert host).run w).1.converter =
        { c with document? := some ⟨Tree.linked ns, notes'⟩ } := by
  obtain ⟨notes₁, hsize₁, haddressed₁, hanalyze⟩ := analyze_paths hc hs hne hsize
  obtain ⟨notes₂, hsize₂, haddressed₂, hgenerate⟩ :=
    generate_paths (c := { c with document? := some ⟨Tree.linked ns, notes₁⟩ }) hc hs hsize₁
      haddressed₁
  have houtline := Tree.linked_outline hs hne
  obtain ⟨written, w', -, hrun⟩ := c.options.outlined_run host houtline w
  have hconvert := convert_outlined host hdocument hanalyze houtline
  have hdone : (c.convert host).run w = _ := (congrArg (StateT.run · w) hconvert).trans (hrun _ _)
  cases written with
  | false =>
    refine ⟨notes₁, hsize₁, haddressed₁, ?_⟩
    rw [hdone]
    rfl
  | true =>
    refine ⟨notes₂, hsize₂, haddressed₂, ?_⟩
    rw [hdone]
    simpa only [if_true, hanalyze, Outcome.andThen] using hgenerate

end Converter

namespace Translator.Echo

open Builder

variable {σ ω : Type}

/-- Analysis notes addresses in any notes, those of an earlier conversion among them, and they are
still there when the conversion ends, whether or not the outline could be written. -/
theorem paths_address {fs : List Feed} {tree : Tree} {stats : Stats}
    (h : (({} : Builder).run fs).finish = .ok (tree, stats)) {notes : Notes}
    (hsize : notes.size = tree.size) (host : Host (StateM ω)) (c : Converter σ)
    (hc : c.translator = .echo) (hdocument : c.document? = some ⟨tree, notes⟩) (w : ω) :
    (∃ notes' : Notes, Addressed tree notes' ∧
        (c.analyze ⟨tree, notes⟩).converter = { c with document? := some ⟨tree, notes'⟩ } ∧
        (c.analyze ⟨tree, notes⟩).result = .ok ⟨tree, notes'⟩) ∧
      (∃ notes' : Notes, notes'.size = tree.size ∧ Addressed tree notes' ∧
        ((c.convert host).run w).1.converter = { c with document? := some ⟨tree, notes'⟩ }) ∧
      ∀ before handle after, tree.preorder = before ++ handle :: after →
        ∃ d, c.translator.analyze.run tree before ⟨c.state, notes⟩ = (d, none) ∧
          Found tree d.notes handle := by
  obtain ⟨ns, hns⟩ := holds_empty.run fs
  obtain ⟨rfl, -, hne⟩ := hns.of_finish h
  rw [hns.tree] at hsize hdocument ⊢
  have hs := hns.stepped
  rw [Tree.linked_size] at hsize
  refine ⟨?_, ?_, ?_⟩
  · obtain ⟨notes', -, haddressed, hanalyze⟩ := c.analyze_paths hc hs hne hsize
    rw [hanalyze]
    exact ⟨notes', haddressed, rfl, rfl⟩
  · obtain ⟨notes', hsize', haddressed, hconvert⟩ :=
      Converter.convert_paths host hc hs hne hsize hdocument w
    exact ⟨notes', hsize'.trans (Tree.linked_size ns).symm, haddressed, hconvert⟩
  · intro before handle after hpreorder
    rw [hc]
    exact run_analyze_found hs hne ⟨c.state, notes⟩ hsize hpreorder

theorem paths_address_again :
    let fs : List Feed := [.line "PPI::Document".toList, .line "  PPI::Statement".toList,
      .line "    PPI::Token::Word 'a'".toList, .line "    PPI::Token::Word 'b'".toList,
      .line "  PPI::Token::Word 'c'".toList]
    let b := ({} : Builder).run fs
    let c : Converter Unit := {
      translator := .echo, state := (), document? := some (.ofTree b.tree) }
    let c₁ := ((c.convert World.host).run {}).1.converter
    let c₂ := ((c₁.convert World.host).run {}).1.converter
    b.finish = .ok (b.tree, b.stats) ∧
      ∃ notes, c₂.document? = some ⟨b.tree, notes⟩ ∧ Addressed b.tree notes ∧
        (List.range 5).map (fun h ↦ (notes.note h).find? pathKey) =
          ["0", "0.0", "0.0.0", "0.0.1", "0.1"].map fun path ↦ some path.toList := by
  intro fs b c c₁ c₂
  have h : b.finish = .ok (b.tree, b.stats) := by decide +kernel
  have hpaths : (c₂.document?.map fun d ↦
      (List.range 5).map fun h ↦ (d.notes.note h).find? pathKey) =
        some (["0", "0.0", "0.0.0", "0.0.1", "0.1"].map fun path ↦ some path.toList) := by
    decide +kernel
  have hblank : (Notes.blank b.tree).size = b.tree.size := Array.size_replicate
  obtain ⟨-, ⟨notes₁, hsize₁, -, hc₁⟩, -⟩ := paths_address h hblank World.host c rfl rfl {}
  have htranslator : c₁.translator = .echo := congrArg Converter.translator hc₁
  have hdocument : c₁.document? = some ⟨b.tree, notes₁⟩ := congrArg Converter.document? hc₁
  obtain ⟨-, ⟨notes₂, -, haddressed, hc₂⟩, -⟩ :=
    paths_address h hsize₁ World.host c₁ htranslator hdocument {}
  have hdocument₂ : c₂.document? = some ⟨b.tree, notes₂⟩ := congrArg Converter.document? hc₂
  rw [hdocument₂] at hpaths
  exact ⟨h, notes₂, hdocument₂, haddressed, Option.some.inj hpaths⟩

end Translator.Echo

end PpiDump
