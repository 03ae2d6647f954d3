import PpiDump.CommandLine.Run
import PpiDump.Proofs.Echo
import PpiDump.Proofs.Export
import PpiDump.Proofs.Files

namespace PpiDump

variable {ω : Type} {host : Host (StateM ω)} {v : View ω} {w w₁ w' : ω}

namespace Converter

variable {c : Converter Unit} {lines : List Text} {tree : Tree} {stats : Stats}

theorem readLines_result (c : Converter Unit) (lines : List Text) :
    (c.readLines lines).result = (Tree.ofLines? lines).map fun _ ↦ () := by
  have hitems : (Transcript.ofLines lines).items = lines.map .ok := rfl
  rw [readLines, read, hitems, Tree.ofLines?]
  rcases ({} : Builder).feed (lines.map .ok) with ⟨b, _ | e⟩
  · rcases hfinish : b.finish with e | ⟨tree, stats⟩
    · simp only [hfinish, Except.map]
    · simp only [hfinish, Except.map]
  · rfl

theorem readLines_outlined {m : Type → Type} [Monad m] [LawfulMonad m] (host : Host m)
    (hc : c.translator = .echo) (h : Tree.ofLines? lines = .ok (tree, stats)) {outline : Text}
    (houtline : tree.outline = .ok outline) :
    ∃ done failed, (c.readLines lines).converter.convert host =
        c.options.outlined host outline done failed ∧
      done.result = .ok ⟨Emitter.emit (recordsOf lines), stats⟩ ∧
      failed.result = .error .fileFailure := by
  obtain ⟨b, ns, -, hns, hne, rfl, rfl⟩ := Tree.ofLines?_ok h
  rw [(c.readLines_ok h).2]
  let c' : Converter Unit := { c with document? := some (.ofTree b.tree), stats := b.stats }
  obtain ⟨notes, hfit, hanalyze⟩ : ∃ notes : Notes, notes.Fit b.tree ∧ c'.analyze (.ofTree b.tree) =
      ⟨{ c' with document? := some ⟨b.tree, notes⟩ }, c'.progress .analyzing,
        .ok ⟨b.tree, notes⟩⟩ :=
    analyze_echo hc (Notes.blank_fit b.tree)
  have hconvert := convert_outlined host (c := c') rfl hanalyze houtline
  rw [hns.tree] at hfit
  obtain ⟨_, -, -, hresult⟩ := generate_echo
    (c := { c' with document? := some ⟨b.tree, notes⟩ }) hc hns hne hfit
  refine ⟨_, _, hconvert, ?_, rfl⟩
  rw [← hns.tree] at hresult
  simpa only [hanalyze, Outcome.andThen] using hresult

end Converter

/-- A file cannot be read in surroundings that show no difference so far. -/
def Host.FailsToRead (host : Host (StateM ω)) (v : View ω) (w : ω) (path : Text) : Prop :=
  ∃ w₁, v.Leaves {} w w₁ ∧ ((host.readFile path).run w₁).1 = none

/-- A file cannot be written in surroundings that show an effect so far. -/
def Host.FailsToWrite (host : Host (StateM ω)) (v : View ω) (w : ω) (e : Effect) (path : Text)
    (content : Bytes) : Prop :=
  ∃ w₁, v.Leaves e w w₁ ∧ ((host.writeFile path content).run w₁).1 = false

inductive Stage where
  | loading | reading | building | exporting | outlining | writing | finished
  deriving DecidableEq, Repr

/-- Nothing is done to the place of the result before the last step. -/
def Stage.isEarly : Stage → Bool
  | writing | finished => false
  | _ => true

def Stage.code : Stage → Nat
  | finished => 0
  | _ => 1

namespace Invocation

/-- The options that a run goes by, given those of its configuration. An argument comes before the
configuration, but directories are added to it, and either of the two may ask for quiet. A limit of
zero seconds in the arguments lifts the limit. -/
structure Effective (i : Invocation) (o o' : Options) : Prop where
  quiet : o'.quiet ↔ o.quiet ∨ i.quiet
  outline : ∀ path, o'.debugDump = some path ↔
    i.dumpStruct = some path ∨ i.dumpStruct = none ∧ o.debugDump = some path
  limit : ∀ secs, o'.timeoutSecs = some secs ↔
    i.timeout = some secs ∧ 0 < secs ∨ i.timeout = none ∧ o.timeoutSecs = some secs
  program : ∀ perl, o'.perl = perl ↔ i.perl = some perl ∨ i.perl = none ∧ o.perl = perl
  directories : o'.includeDirs = o.includeDirs ++ i.includeDirs

def configuration (i : Invocation) (content : Text → Option Bytes) : Option Options :=
  match i.config with
  | none => some {}
  | some path =>
    match (content path).bind Utf8.decode? with
    | none => none
    | some text => (Options.ofJson? text).toOption

def outlinePath (i : Invocation) (o : Options) : Option Text := i.dumpStruct.or o.debugDump

/-- The files a run has to do with. -/
def named (i : Invocation) (content : Text → Option Bytes) : List Text :=
  i.source :: (i.config.toList ++ i.jsonTree.toList ++
    ((i.configuration content).bind i.outlinePath).toList ++ i.output.toList)

/-- What a run can make of files from which a tree is built. -/
structure Product (i : Invocation) (content : Text → Option Bytes) where
  configuration : Options
  source : Bytes
  tree : Tree
  stats : Stats
  json : Text
  outline : Text
  output : Text
  configured : i.configuration content = some configuration
  read : content i.source = some source
  built : Tree.ofLines? (Utf8.decode source).lines = .ok (tree, stats)
  exported : tree.exportText = .ok json
  outlined : tree.outline = .ok outline
  converted : ∀ o : Options, o.debugDump = none →
    (convertDump Host.bare (Utf8.decode source) o).result = .ok ⟨output, stats⟩

namespace Product

variable {i : Invocation} {content : Text → Option Bytes}

def exports (p : Product i content) (ok : Bool) : Effect :=
  .write i.jsonTree (Utf8.encode p.json) ok

def outlines (p : Product i content) (ok : Bool) : Effect :=
  .write (i.outlinePath p.configuration) (Utf8.encode p.outline) ok

def drafts (p : Product i content) : Effect := (p.exports true).andThen (p.outlines true)

def results (p : Product i content) (ok : Bool) : Effect :=
  match i.output with
  | some path => .write path (Utf8.encode p.output) ok
  | none => { printed := Utf8.encode p.output }

end Product

/-- How far a run comes, and what it leaves then. -/
inductive Course (host : Host (StateM ω)) (v : View ω) (w : ω) (i : Invocation) :
    Stage → Effect → Prop
  | unloaded
      (hfailed : (∃ path ∈ i.config, host.FailsToRead v w path) ∨
        i.configuration (v.content w) = none) :
      Course host v w i .loading {}
  | unread {o : Options} (hconfigured : i.configuration (v.content w) = some o)
      (hfailed : host.FailsToRead v w i.source) : Course host v w i .reading {}
  | unbuilt {o : Options} {source : Bytes} {e : Error}
      (hconfigured : i.configuration (v.content w) = some o)
      (hread : v.content w i.source = some source)
      (hfailed : Tree.ofLines? (Utf8.decode source).lines = .error e) :
      Course host v w i .building {}
  | unexported (p : Product i (v.content w)) {path : Text} (hpath : i.jsonTree = some path)
      (hfailed : host.FailsToWrite v w {} path (Utf8.encode p.json)) :
      Course host v w i .exporting (p.exports false)
  | unoutlined (p : Product i (v.content w)) {path : Text}
      (hpath : i.outlinePath p.configuration = some path)
      (hfailed : host.FailsToWrite v w (p.exports true) path (Utf8.encode p.outline)) :
      Course host v w i .outlining ((p.exports true).andThen (p.outlines false))
  | unwritten (p : Product i (v.content w)) {path : Text} (hpath : i.output = some path)
      (hfailed : host.FailsToWrite v w p.drafts path (Utf8.encode p.output)) :
      Course host v w i .writing (p.drafts.andThen (p.results false))
  | finished (p : Product i (v.content w)) :
      Course host v w i .finished (p.drafts.andThen (p.results true))

theorem Effective.unique {i : Invocation} {o o₁ o₂ : Options} (h₁ : i.Effective o o₁)
    (h₂ : i.Effective o o₂) : o₁ = o₂ := by
  have hquiet : o₁.quiet = o₂.quiet := Bool.eq_iff_iff.mpr (h₁.quiet.trans h₂.quiet.symm)
  have houtline : o₁.debugDump = o₂.debugDump := by
    apply Option.ext
    intro path
    rw [h₁.outline, h₂.outline]
  have hlimit : o₁.timeoutSecs = o₂.timeoutSecs := by
    apply Option.ext
    intro secs
    rw [h₁.limit, h₂.limit]
  have hprogram : o₁.perl = o₂.perl := by rw [h₁.program, ← h₂.program]
  have hdirectories := h₁.directories.trans h₂.directories.symm
  cases o₁
  cases o₂
  simp_all

theorem effective_iff {i : Invocation} {o o' : Options} : i.Effective o o' ↔ o' = i.adjust o := by
  have hadjust : i.Effective o (i.adjust o) := by
    refine ⟨?_, ?_, ?_, ?_, rfl⟩
    · rw [adjust, Bool.or_eq_true]
    · intro path
      exact Option.or_eq_some_iff
    · intro secs
      rcases htimeout : i.timeout with _ | _ | limit
      · simp [adjust, htimeout]
      · simp [adjust, htimeout]
        omega
      · simp [adjust, htimeout]
        omega
    · intro perl
      cases hperl : i.perl <;> simp [adjust, hperl]
  constructor
  · intro h
    exact h.unique hadjust
  · rintro rfl
    exact hadjust

theorem Effective.outline_eq {i : Invocation} {o o' : Options} (h : i.Effective o o') :
    o'.debugDump = i.outlinePath o := by
  apply Option.ext
  intro path
  rw [h.outline, outlinePath, Option.or_eq_some_iff]

section Steps

variable {α β : Type} {e : Error}

theorem run_bind_ok {x : ExceptT Error (StateM ω) α} {f : α → ExceptT Error (StateM ω) β} {a : α}
    (h : x.run.run w = (.ok a, w')) : (x >>= f).run.run w = (f a).run.run w' := by
  rw [ExceptT.run_bind, StateT.run_bind, h]
  rfl

theorem run_bind_error {x : ExceptT Error (StateM ω) α} {f : α → ExceptT Error (StateM ω) β}
    (h : x.run.run w = (.error e, w')) : (x >>= f).run.run w = (.error e, w') := by
  rw [ExceptT.run_bind, StateT.run_bind, h]
  rfl

theorem run_lift {x : StateM ω α} {a : α} (h : x.run w = (a, w')) :
    (liftM x : ExceptT Error (StateM ω) α).run.run w = (.ok a, w') := by
  change (Except.ok <$> x).run w = (.ok a, w')
  rw [StateT.run_map, h]
  rfl

end Steps

theorem logs_run (hhost : host.Honors v) (hw : v.sound w) (events : List Event) :
    ∃ w', (events.forM fun e ↦ (host.log e.logLine : ExceptT Error (StateM ω) Unit)).run.run w =
      (.ok (), w') ∧ v.Leaves {} w w' := by
  induction events generalizing w with
  | nil => exact ⟨w, rfl, View.leaves_nothing hw⟩
  | cons e events ih =>
    obtain ⟨w₁, hlog, hfirst⟩ := hhost.log e.logLine hw
    obtain ⟨w', hlogs, hrest⟩ := ih hfirst.sound
    refine ⟨w', ?_, hfirst.quietly hrest⟩
    exact (run_bind_ok (run_lift hlog)).trans hlogs

theorem settle_run {α : Type} (hhost : host.Honors v) (hw : v.sound w) (o : Outcome Unit α) :
    ∃ w', (settle host o).run.run w = (o.result.map fun a ↦ (o.converter, a), w') ∧
      v.Leaves {} w w' := by
  obtain ⟨w', hlogs, hleaves⟩ := logs_run hhost hw o.events
  refine ⟨w', ?_, hleaves⟩
  rw [settle, run_bind_ok hlogs]
  cases o.result <;> rfl

theorem ensure_run (ok : Bool) (w : ω) :
    (ensure ok : ExceptT Error (StateM ω) Unit).run.run w =
      (if ok then .ok () else .error .fileFailure, w) := by
  cases ok <;> rfl

variable {i : Invocation} {e : Effect}

theorem configured_run (hhost : host.Honors v) (hw : v.sound w)
    (hconfig : ∀ path ∈ i.config, path ∈ v.paths) :
    ∃ result w', (i.configured host).run.run w = (result, w') ∧ v.Leaves {} w w' ∧
      match result with
      | .ok o => i.configuration (v.content w) = some o
      | .error _ => (∃ path ∈ i.config, host.FailsToRead v w path) ∨
          i.configuration (v.content w) = none := by
  rw [configured, configuration]
  rcases hpath : i.config with _ | path
  · exact ⟨.ok {}, w, rfl, View.leaves_nothing hw, rfl⟩
  · obtain ⟨answer, w', hread, hanswer, hleaves⟩ := hhost.readFile hw (hconfig path hpath)
    simp only [run_bind_ok (run_lift hread)]
    rcases answer with _ | bytes
    · have hfails : host.FailsToRead v w path := ⟨w, View.leaves_nothing hw, by rw [hread]⟩
      exact ⟨.error .fileFailure, w', rfl, hleaves, .inl ⟨path, rfl, hfails⟩⟩
    · have hcontent := (hanswer.resolve_left (Option.some_ne_none bytes)).symm
      have hbytes : (orFail .fileFailure (some bytes) : ExceptT Error (StateM ω) Bytes).run.run w' =
          (.ok bytes, w') := rfl
      simp only [run_bind_ok hbytes, hcontent, Option.bind_some]
      rcases hdecode : Utf8.decode? bytes with _ | text
      · exact ⟨.error .fileFailure, w', rfl, hleaves, .inr rfl⟩
      · have htext : (orFail .fileFailure (some text) : ExceptT Error (StateM ω) Text).run.run w' =
            (.ok text, w') := rfl
        simp only [run_bind_ok htext]
        rcases Options.ofJson? text with e | o
        · exact ⟨.error e, w', rfl, hleaves, .inr rfl⟩
        · exact ⟨.ok o, w', rfl, hleaves, rfl⟩

theorem readDocument_run (hhost : host.Honors v) (hdump : i.fromDump = true)
    (hsource : i.source ∈ v.paths) (hbefore : v.Leaves {} w w₁) (o : Options) :
    ∃ result w', (i.readDocument host (.echo o)).run.run w₁ = (result, w') ∧ v.Leaves {} w w' ∧
      match result with
      | .ok c => ∃ source tree stats, v.content w i.source = some source ∧
          Tree.ofLines? (Utf8.decode source).lines = .ok (tree, stats) ∧
          c = ((Converter.echo o).readLines (Utf8.decode source).lines).converter
      | .error _ => host.FailsToRead v w i.source ∨ ∃ source e, v.content w i.source = some source ∧
          Tree.ofLines? (Utf8.decode source).lines = .error e := by
  obtain ⟨answer, w₂, hread, hanswer, hleaves⟩ := hhost.readFile hbefore.sound hsource
  have hafter := hbefore.quietly hleaves
  rw [readDocument, if_pos hdump, run_bind_ok (run_lift hread)]
  rcases answer with _ | source
  · exact ⟨.error .fileFailure, w₂, rfl, hafter, .inl ⟨w₁, hbefore, by rw [hread]⟩⟩
  · have hcontent : v.content w i.source = some source := by
      rw [← hbefore.content_eq hsource]
      exact (hanswer.resolve_left (Option.some_ne_none source)).symm
    have hbytes : (orFail .fileFailure (some source) : ExceptT Error (StateM ω) Bytes).run.run w₂ =
        (.ok source, w₂) := rfl
    let lines := (Utf8.decode source).lines
    obtain ⟨w', hsettle, hlogs⟩ :=
      settle_run hhost hafter.sound ((Converter.echo o).readLines lines)
    rw [run_bind_ok hbytes]
    rw [Converter.readLines_result] at hsettle
    rcases hbuild : Tree.ofLines? lines with e | ⟨tree, stats⟩
    · rw [hbuild] at hsettle
      exact ⟨.error e, w', run_bind_error hsettle, hafter.quietly hlogs,
        .inr ⟨source, e, hcontent, hbuild⟩⟩
    · rw [hbuild] at hsettle
      exact ⟨.ok _, w', run_bind_ok hsettle, hafter.quietly hlogs, source, tree, stats, hcontent,
        hbuild, rfl⟩

theorem write_run (hhost : host.Honors v) (path? : Option Text) (content : Bytes)
    (hbefore : v.Leaves e w w₁) (hpath : ∀ path ∈ path?, path ∈ v.paths ∧ path ∉ e.places) :
    ∃ (ok : Bool) (w' : ω),
      (path?.elim (pure true) fun path ↦ host.writeFile path content).run w₁ = (ok, w') ∧
      v.Leaves (e.andThen (.write path? content ok)) w w' ∧
      (ok = false → ∃ path, path? = some path ∧ host.FailsToWrite v w e path content) := by
  rcases path? with _ | path
  · refine ⟨true, w₁, rfl, ?_, fun h ↦ nomatch h⟩
    rw [show Effect.write none content true = {} from rfl, Effect.andThen_nothing]
    exact hbefore
  · obtain ⟨hmem, hapart⟩ := hpath path rfl
    obtain ⟨ok, w', hwrite, hleaves⟩ := hhost.writeFile content hbefore.sound hmem
    refine ⟨ok, w', hwrite, hbefore.andThen hleaves ?_, ?_⟩
    · rw [Effect.places_write]
      exact List.disjoint_singleton.mpr hapart
    · rintro rfl
      exact ⟨path, rfl, w₁, hbefore, by rw [hwrite]⟩

theorem exists_product {content : Text → Option Bytes} {o : Options} {source : Bytes} {tree : Tree}
    {stats : Stats} (hconfigured : i.configuration content = some o)
    (hread : content i.source = some source)
    (hbuilt : Tree.ofLines? (Utf8.decode source).lines = .ok (tree, stats)) :
    ∃ p : Product i content, p.configuration = o ∧ p.source = source := by
  obtain ⟨a, -, hexported⟩ := Tree.exportText_of_lines hbuilt
  obtain ⟨outline, houtlined⟩ := (Converter.convertible_of_lines hbuilt).outline
  have hconverted (o : Options) (ho : o.debugDump = none) :
      (convertDump Host.bare (Utf8.decode source) o).result =
        .ok ⟨Emitter.emit (recordsOf (Utf8.decode source).lines), stats⟩ := by
    obtain ⟨_, done, failed, hconvert, hdone, -⟩ :=
      convertDump_emit Host.bare (Utf8.decode source) o hbuilt
    rw [hconvert, Options.outlined_none ho]
    exact hdone
  exact ⟨⟨o, source, tree, stats, _, outline, _, hconfigured, hread, hbuilt, hexported, houtlined,
    hconverted⟩, rfl, rfl⟩

theorem Product.output_eq {content : Text → Option Bytes} (p : Product i content) :
    p.output = Emitter.emit (recordsOf (Utf8.decode p.source).lines) := by
  obtain ⟨_, done, failed, hconvert, hdone, -⟩ :=
    convertDump_emit Host.bare (Utf8.decode p.source) {} p.built
  have hconverted := p.converted {} rfl
  rw [hconvert] at hconverted
  have hsame := Except.ok.inj (hdone.symm.trans hconverted)
  exact (congrArg Conversion.output hsame).symm

theorem Product.convert_eq (host : Host (StateM ω)) {content : Text → Option Bytes}
    (p : Product i content) (o : Options) :
    let c := ((Converter.echo o).readLines (Utf8.decode p.source).lines).converter
    c.document? = some (.ofTree p.tree) ∧
      ∃ done failed, c.convert host = o.outlined host p.outline done failed ∧
        done.result = .ok ⟨p.output, p.stats⟩ ∧ failed.result = .error .fileFailure := by
  intro c
  have hc : c = { Converter.echo o with document? := some (.ofTree p.tree), stats := p.stats } :=
    ((Converter.echo o).readLines_ok p.built).2
  obtain ⟨done, failed, hconvert, hdone, hfailed⟩ :=
    Converter.readLines_outlined (c := Converter.echo o) host rfl p.built p.outlined
  refine ⟨by rw [hc], done, failed, hconvert, ?_, hfailed⟩
  rw [hdone, p.output_eq]

theorem writeExport_run (hhost : host.Honors v) {c : Converter Unit} {d : Document}
    (hdocument : c.document? = some d) {json : Text} (hjson : d.tree.exportText = .ok json)
    (hbefore : v.Leaves {} w w₁) (hpath : ∀ path ∈ i.jsonTree, path ∈ v.paths) :
    ∃ (ok : Bool) (w' : ω), (i.writeExport host c).run.run w₁ =
        (if ok then .ok () else .error .fileFailure, w') ∧
      v.Leaves (.write i.jsonTree (Utf8.encode json) ok) w w' ∧
      (ok = false → ∃ path, i.jsonTree = some path ∧
        host.FailsToWrite v w {} path (Utf8.encode json)) := by
  obtain ⟨ok, w', hwrite, hleaves, hfails⟩ := write_run hhost i.jsonTree
    (Utf8.encode json) hbefore fun path h ↦ ⟨hpath path h, List.not_mem_nil⟩
  refine ⟨ok, w', ?_, hleaves, hfails⟩
  rcases hnamed : i.jsonTree with _ | path
  · rw [hnamed] at hwrite
    cases hwrite
    simp only [writeExport, hnamed]
    rfl
  · rw [hnamed, Option.elim_some] at hwrite
    have htext : (accept d.tree.exportText : ExceptT Error (StateM ω) Text).run.run w₁ =
        (.ok json, w₁) := by
      rw [hjson]
      rfl
    simp only [writeExport, hnamed, hdocument]
    rw [run_bind_ok htext, run_bind_ok (run_lift hwrite), ensure_run]

theorem convert_run (hhost : host.Honors v) {c : Converter Unit} {o : Options} {outline : Text}
    {done failed : Outcome Unit Conversion} {path? : Option Text}
    (hconvert : c.convert host = o.outlined host outline done failed) (ho : o.debugDump = path?)
    (hbefore : v.Leaves e w w₁) (hpath : ∀ path ∈ path?, path ∈ v.paths ∧ path ∉ e.places) :
    ∃ (ok : Bool) (w' : ω), (c.convert host).run w₁ = (if ok then done else failed, w') ∧
      v.Leaves (e.andThen (.write path? (Utf8.encode outline) ok)) w w' ∧
      (ok = false → ∃ path, path? = some path ∧
        host.FailsToWrite v w e path (Utf8.encode outline)) := by
  obtain ⟨ok, w', hwrite, hleaves, hfails⟩ :=
    write_run hhost path? (Utf8.encode outline) hbefore hpath
  refine ⟨ok, w', ?_, hleaves, hfails⟩
  rw [hconvert, Options.outlined, ho]
  rcases path? with _ | path
  · cases hwrite
    rfl
  · rw [Option.elim_some] at hwrite
    simp only [StateT.run_bind, hwrite]
    cases ok <;> rfl

theorem writeResult_run (hhost : host.Honors v) {content : Text → Option Bytes}
    (p : Product i content) (hbefore : v.Leaves e w w₁)
    (hpath : ∀ path ∈ i.output, path ∈ v.paths ∧ path ∉ e.places) :
    ∃ (ok : Bool) (w' : ω), (i.writeResult host p.output).run.run w₁ =
        (if ok then .ok () else .error .fileFailure, w') ∧
      v.Leaves (e.andThen (p.results ok)) w w' ∧
      (ok = false → ∃ path, i.output = some path ∧
        host.FailsToWrite v w e path (Utf8.encode p.output)) := by
  rcases hnamed : i.output with _ | path
  · obtain ⟨w', hprint, hleaves⟩ := hhost.print p.output hbefore.sound
    refine ⟨true, w', ?_, ?_, fun h ↦ nomatch h⟩
    · simp only [writeResult, hnamed]
      exact run_lift hprint
    · rw [Product.results, hnamed]
      exact hbefore.andThen hleaves (List.disjoint_nil_right _)
  · rw [hnamed] at hpath
    obtain ⟨ok, w', hwrite, hleaves, hfails⟩ :=
      write_run hhost (some path) (Utf8.encode p.output) hbefore hpath
    refine ⟨ok, w', ?_, ?_, hfails⟩
    · rw [Option.elim_some] at hwrite
      simp only [writeResult, hnamed]
      rw [run_bind_ok (run_lift hwrite), ensure_run]
    · rw [Product.results, hnamed]
      exact hleaves

theorem Product.apart {content : Text → Option Bytes} (p : Product i content)
    (hdistinct : (i.named content).Nodup) :
    (∀ ok, ∀ path ∈ i.outlinePath p.configuration, path ∉ (p.exports ok).places) ∧
      ∀ ok ok', ∀ path ∈ i.output, path ∉ ((p.exports ok).andThen (p.outlines ok')).places := by
  rw [named, p.configured, Option.bind_some] at hdistinct
  obtain ⟨hnodup, -, hlast⟩ := List.nodup_append.mp hdistinct.of_cons
  obtain ⟨-, -, hmiddle⟩ := List.nodup_append.mp hnodup
  refine ⟨fun ok path h hmem ↦ ?_, fun ok ok' path h hmem ↦ ?_⟩
  · rw [Product.exports, Effect.places_write] at hmem
    exact hmiddle path (List.mem_append_right _ hmem) path (Option.mem_toList.mpr h) rfl
  · rw [Effect.places_andThen, Product.exports, Product.outlines, Effect.places_write,
      Effect.places_write] at hmem
    refine hlast path ?_ path (Option.mem_toList.mpr h) rfl
    rw [List.append_assoc]
    exact List.mem_append_right _ hmem

theorem produce_course (hhost : host.Honors v) (p : Product i (v.content w)) {o : Options}
    (ho : i.Effective p.configuration o) (hseen : i.named (v.content w) ⊆ v.paths)
    (hdistinct : (i.named (v.content w)).Nodup) (hbefore : v.Leaves {} w w₁) :
    let c := ((Converter.echo o).readLines (Utf8.decode p.source).lines).converter
    ∃ stage effect result w', i.Course host v w stage effect ∧ v.Leaves effect w w' ∧
      (do
        i.writeExport host c
        let converted ← ExceptT.lift (c.convert host)
        let (_, conversion) ← settle host converted
        i.writeResult host conversion.output : ExceptT Error (StateM ω) Unit).run.run w₁ =
          (result, w') ∧
      (result = .ok () ↔ stage = .finished) := by
  intro c
  obtain ⟨hdocument, done, failed, hconvert, hdone, hfailed⟩ := p.convert_eq host o
  obtain ⟨hafter, hlast⟩ := p.apart hdistinct
  -- Each of the three steps has at most one file, which is seen and not written before.
  have hnamed {path : Text} (h : path ∈ i.jsonTree.toList ++
      (i.outlinePath p.configuration).toList ++ i.output.toList) : path ∈ v.paths := by
    refine hseen ?_
    rw [named, p.configured, Option.bind_some]
    simp only [List.mem_cons, List.mem_append] at h ⊢
    tauto
  have hjson : ∀ path ∈ i.jsonTree, path ∈ v.paths := fun path h ↦
    hnamed (by simp [Option.mem_def.mp h])
  have hdump : ∀ path ∈ i.outlinePath p.configuration,
      path ∈ v.paths ∧ path ∉ (p.exports true).places := fun path h ↦
    ⟨hnamed (by simp [Option.mem_def.mp h]), hafter true path h⟩
  have houtput : ∀ path ∈ i.output, path ∈ v.paths ∧ path ∉ p.drafts.places :=
    fun path h ↦ ⟨hnamed (by simp [Option.mem_def.mp h]), hlast true true path h⟩
  obtain ⟨exported, w₂, hexport, hexports, hunexported⟩ :=
    writeExport_run hhost hdocument p.exported hbefore hjson
  rcases exported with _ | _
  · obtain ⟨path, hpath, hfails⟩ := hunexported rfl
    exact ⟨_, _, _, w₂, .unexported p hpath hfails, hexports, run_bind_error hexport, by simp⟩
  rw [run_bind_ok hexport]
  obtain ⟨outlined, w₃, hconverted, houtlines, hunoutlined⟩ :=
    convert_run hhost hconvert ho.outline_eq hexports hdump
  have hlift : (ExceptT.lift (c.convert host) : ExceptT Error (StateM ω) _).run.run w₂ =
      (.ok (if outlined then done else failed), w₃) := run_lift hconverted
  rw [run_bind_ok hlift]
  rcases outlined with _ | _
  · obtain ⟨path, hpath, hfails⟩ := hunoutlined rfl
    obtain ⟨w₄, hsettle, hlogs⟩ := settle_run hhost houtlines.sound failed
    rw [hfailed] at hsettle
    exact ⟨_, _, _, w₄, .unoutlined p hpath hfails, houtlines.quietly hlogs,
      run_bind_error hsettle, by simp⟩
  obtain ⟨w₄, hsettle, hlogs⟩ := settle_run hhost houtlines.sound done
  rw [hdone, Except.map] at hsettle
  rw [if_pos rfl, run_bind_ok hsettle]
  obtain ⟨written, w', hresult, hresults, hunwritten⟩ :=
    writeResult_run hhost p (houtlines.quietly hlogs) houtput
  rcases written with _ | _
  · obtain ⟨path, hpath, hfails⟩ := hunwritten rfl
    exact ⟨_, _, _, w', .unwritten p hpath hfails, hresults, hresult, by simp⟩
  · exact ⟨_, _, _, w', .finished p, hresults, hresult, by simp⟩

theorem perform_course (hhost : host.Honors v) (hdump : i.fromDump = true) (hw : v.sound w)
    (hseen : i.named (v.content w) ⊆ v.paths) (hdistinct : (i.named (v.content w)).Nodup) :
    ∃ stage effect result w', i.Course host v w stage effect ∧ v.Leaves effect w w' ∧
      (i.perform host).run.run w = (result, w') ∧
      (result = .ok () ↔ stage = .finished) := by
  have hconfig : ∀ path ∈ i.config, path ∈ v.paths := fun path h ↦
    hseen (by simp [named, Option.mem_def.mp h])
  have hsource : i.source ∈ v.paths := hseen List.mem_cons_self
  obtain ⟨configured, w₁, hconfigured, hbefore, hload⟩ := configured_run hhost hw hconfig
  rcases configured with e | o
  · exact ⟨_, _, _, w₁, .unloaded hload, hbefore, run_bind_error hconfigured, by simp⟩
  obtain ⟨document, w₂, hdocument, hbefore, hread⟩ :=
    readDocument_run hhost hdump hsource hbefore (i.adjust o)
  rw [perform, run_bind_ok hconfigured]
  rcases document with e | c
  · rcases hread with hunread | ⟨source, e', hread, hunbuilt⟩
    · exact ⟨_, _, _, w₂, .unread hload hunread, hbefore, run_bind_error hdocument, by simp⟩
    · exact ⟨_, _, _, w₂, .unbuilt hload hread hunbuilt, hbefore, run_bind_error hdocument, by simp⟩
  · obtain ⟨source, tree, stats, hread, hbuilt, rfl⟩ := hread
    obtain ⟨p, rfl, rfl⟩ := exists_product hload hread hbuilt
    obtain ⟨stage, effect, result, w', hcourse, hleaves, hrun, hresult⟩ :=
      produce_course hhost p (effective_iff.mpr rfl) hseen hdistinct hbefore
    refine ⟨stage, effect, result, w', hcourse, hleaves, ?_, hresult⟩
    rw [run_bind_ok hdocument, hrun]

theorem Course.early {stage : Stage} (h : i.Course host v w stage e) (hearly : stage.isEarly)
    (hdistinct : (i.named (v.content w)).Nodup) :
    e.printed = [] ∧ ∀ path ∈ i.output, path ∉ e.places := by
  cases h with
  | unloaded | unread | unbuilt => exact ⟨rfl, fun _ _ ↦ List.not_mem_nil⟩
  | unexported p =>
    refine ⟨rfl, fun path hpath hmem ↦ (p.apart hdistinct).2 false true path hpath ?_⟩
    rw [Effect.places_andThen]
    exact List.mem_append_left _ hmem
  | unoutlined p => exact ⟨rfl, (p.apart hdistinct).2 true false⟩
  | unwritten | finished => cases hearly

end Invocation

theorem runCommand_run {args : List Text} {i : Invocation} {result : Except Error Unit}
    (hargs : Arguments.read args = .ok i) (h : (i.perform host).run.run w = (result, w₁)) :
    (runCommand host args).run w =
      match result with
      | .ok () => (0, w₁)
      | .error e => (1, ((host.log ("ERROR ".toList ++ e.message)).run w₁).2) := by
  simp only [runCommand, hargs, StateT.run_bind, h]
  rcases result with e | ⟨⟨⟩⟩ <;> rfl

/-- An accepted run on a dump. Up to the last step nothing is printed and the place of the result is
left alone. -/
theorem runCommand_course (hhost : host.Honors v) {args : List Text} {i : Invocation}
    (hargs : Arguments.read args = .ok i) (hdump : i.fromDump = true) (hw : v.sound w)
    (hseen : i.named (v.content w) ⊆ v.paths) (hdistinct : (i.named (v.content w)).Nodup) :
    let done := (runCommand host args).run w
    ∃ stage effect, i.Course host v w stage effect ∧ v.Leaves effect w done.2 ∧
      done.1 = stage.code ∧
      (stage.isEarly → done.1 = 1 ∧ v.printed done.2 = v.printed w ∧
        ∀ path ∈ i.output, v.content done.2 path = v.content w path) := by
  intro done
  obtain ⟨stage, effect, result, w₁, hcourse, hleaves, hrun, hresult⟩ :=
    i.perform_course hhost hdump hw hseen hdistinct
  have hdone : done.1 = stage.code ∧ v.Leaves effect w done.2 := by
    rw [show done = _ from runCommand_run hargs hrun]
    rcases result with error | ⟨⟨⟩⟩
    · obtain ⟨w', hlog, hquiet⟩ := hhost.log ("ERROR ".toList ++ error.message) hleaves.sound
      have hunfinished : stage ≠ .finished := fun h ↦ nomatch hresult.mpr h
      simp only [hlog]
      refine ⟨?_, hleaves.quietly hquiet⟩
      cases stage <;> first | rfl | exact absurd rfl hunfinished
    · rw [hresult.mp rfl]
      exact ⟨rfl, hleaves⟩
  refine ⟨stage, effect, hcourse, hdone.2, hdone.1, fun hearly ↦ ?_⟩
  obtain ⟨hprinted, hplaces⟩ := hcourse.early hearly hdistinct
  refine ⟨?_, ?_, fun path hpath ↦ ?_⟩
  · rw [hdone.1]
    cases stage <;> first | rfl | cases hearly
  · rw [hdone.2.printed, hprinted, List.append_nil]
  · refine hdone.2.others path (hseen ?_) (hplaces path hpath)
    simp [Invocation.named, Option.mem_def.mp hpath]

theorem runCommand_course_outlined :
    let args := ["--from-dump", "dump", "-oout", "--json-tree=tree", "--dump-struct", "struct",
      "--config", "options"].map String.toList
    let i : Invocation := {
      source := "dump".toList, output := some "out".toList, config := some "options".toList
      dumpStruct := some "struct".toList, jsonTree := some "tree".toList, fromDump := true }
    let w : World := { files := .ofList [
      ("dump".toList, ⟨Utf8.encode "PPI::Document\n  PPI::Token::Word 'a'".toList, false⟩),
      ("options".toList, ⟨Utf8.encode "\x7b\"debug_dump\": \"outline\"\x7d".toList, false⟩),
      ("outline".toList, ⟨[0x62], false⟩), ("out".toList, ⟨[0x61], false⟩)] }
    let paths := ["dump", "options", "tree", "struct", "out"].map String.toList
    let v := World.view ("outline".toList :: paths)
    let done := (runCommand World.host args).run w
    Arguments.read args = .ok i ∧ v.sound w ∧
      i.configuration (v.content w) = some { debugDump := some "outline".toList } ∧
      i.named (v.content w) = paths ∧ paths.Nodup ∧
      (∃ effect, i.Course World.host v w .finished effect ∧ v.Leaves effect w done.2) ∧
      done.1 = 0 ∧ v.content done.2 "outline".toList = some [0x62] ∧
      v.content done.2 "struct".toList =
        some (Utf8.encode "1 PpiDocument\n2   PpiTokenWord 'a'\n".toList) ∧
      v.content done.2 "out".toList = some (Utf8.encode "<?php\na".toList) := by
  intro args i w paths v done
  have hargs : Arguments.read args = .ok i := by decide +kernel
  have hplain : ∀ t ∈ v.paths, ∀ p ∈ w.files.place? t, w.files.isPlain p := by decide +kernel
  have hapart : ∀ t ∈ v.paths, ∀ t' ∈ v.paths, t ≠ t' →
      ∀ p ∈ w.files.place? t, p ∉ w.files.place? t' := by
    decide +kernel
  have hsound : v.sound w := ⟨hplain, hapart⟩
  have hconfiguration : i.configuration (v.content w) =
      some { debugDump := some "outline".toList } := by
    decide +kernel
  have hnamed : i.named (v.content w) = paths := by decide +kernel
  have hdistinct : paths.Nodup := by decide +kernel
  have hseen : i.named (v.content w) ⊆ v.paths := hnamed ▸ List.subset_cons_self _ _
  have hapart' : (i.named (v.content w)).Nodup := hnamed ▸ hdistinct
  have hfiles : done.1 = 0 ∧ v.content done.2 "outline".toList = some [0x62] ∧
      v.content done.2 "struct".toList =
        some (Utf8.encode "1 PpiDocument\n2   PpiTokenWord 'a'\n".toList) ∧
      v.content done.2 "out".toList = some (Utf8.encode "<?php\na".toList) := by
    decide +kernel
  obtain ⟨stage, effect, hcourse, hleaves, hcode, -⟩ :=
    runCommand_course (World.host_honors v.paths) hargs rfl hsound hseen hapart'
  obtain rfl : stage = .finished := by
    have hzero : stage.code = 0 := hcode.symm.trans hfiles.1
    cases stage <;> first | rfl | cases hzero
  exact ⟨hargs, hsound, hconfiguration, hnamed, hdistinct, ⟨effect, hcourse, hleaves⟩, hfiles⟩

end PpiDump
