import Mathlib.Data.List.Forall2
import PpiDump.Proofs.Phases
import PpiDump.Proofs.Session
import PpiDump.Reviser

namespace PpiDump

variable {σ ω α β : Type}

namespace Converter

def hush (c : Converter σ) : Converter σ := c.setQuiet true

theorem progress_hush (c : Converter σ) (e : Event) : c.hush.progress e = [] := rfl

theorem filter_progress (c : Converter σ) {e : Event} (he : e.isWarning = false) :
    (c.progress e).filter Event.isWarning = [] := by
  rw [progress]
  split
  · rfl
  · simp [he]

end Converter

theorem Builder.filter_warnings (b : Builder) : b.warnings.filter Event.isWarning = b.warnings := by
  refine List.filter_eq_self.mpr fun e he ↦ ?_
  obtain ⟨s, -, rfl⟩ := List.mem_map.mp he
  rfl

/-- Leaves out the progress. -/
def Outcome.hush (o : Outcome σ α) : Outcome σ α :=
  ⟨o.converter.hush, o.events.filter Event.isWarning, o.result⟩

def Course.hush (o : Course σ α) : Course σ α := ⟨o.toOutcome.hush, o.calls⟩

theorem Outcome.andThen_hush (o : Outcome σ α) (next : Converter σ → α → Outcome σ β)
    (hnext : ∀ c a, next (Converter.hush c) a = (next c a).hush) :
    o.hush.andThen next = (o.andThen next).hush := by
  rcases o with ⟨c, events, e | a⟩
  · rfl
  · simp only [andThen, hush, hnext, List.filter_append]

theorem Course.andThen_hush (o : Course σ α) (next : Converter σ → α → Course σ β)
    (hnext : ∀ c a, next (Converter.hush c) a = (next c a).hush) :
    o.hush.andThen next = (o.andThen next).hush := by
  rcases o with ⟨⟨c, events, e | a⟩, calls⟩
  · rfl
  · simp only [andThen, hush, Outcome.hush, hnext, List.filter_append]

namespace Converter

theorem read_hush (c : Converter σ) (t : Transcript) : c.hush.read t = (c.read t).hush := by
  unfold read
  rcases ({} : Builder).feed t.items with ⟨b, _ | e⟩
  · have hfailure : (t.failure.toList.map Event.producerFailed).filter Event.isWarning =
        t.failure.toList.map Event.producerFailed := by
      cases t.failure <;> rfl
    rcases hfinish : b.finish with e | ⟨tree, stats⟩
    · simp only [hfinish, Outcome.hush, List.filter_append, b.filter_warnings, hfailure]
    · have hprogress := c.filter_progress (e := .linesRead stats.linesRead) rfl
      simp only [hfinish, Outcome.hush, List.filter_append, b.filter_warnings, hfailure,
        progress_hush, hprogress]
      rfl
  · simp only [Outcome.hush, b.filter_warnings]

theorem readFrom_hush (c : Converter σ) (produced : Except Error Transcript) :
    c.hush.readFrom produced = (c.readFrom produced).hush := by
  cases produced with
  | error e => rfl
  | ok t => exact c.read_hush t

theorem readSource_hush (host : Host (StateM ω)) (c : Converter σ) (source : Bytes) (w : ω) :
    (c.hush.readSource host source).run w =
      let done := (c.readSource host source).run w
      (done.1.hush, done.2) := by
  have hdumper : c.hush.options.dumper = c.options.dumper := rfl
  simp only [readSource, StateT.run_bind, hdumper]
  rcases (c.options.dumper.dump host source).run w with ⟨e | t, w'⟩
  · rfl
  · simp only [read_hush]
    rfl

theorem visitAll_hush (c : Converter σ) (d : Document) (visit : Visit σ) (hs : List Handle)
    {e : Event} (he : e.isWarning = false) :
    c.hush.visitAll d visit hs (c.hush.progress e) =
      (c.visitAll d visit hs (c.progress e)).hush := by
  simp only [visitAll, Outcome.hush, progress_hush, c.filter_progress he]
  rfl

theorem generate_hush (c : Converter σ) (d : Document) :
    c.hush.generate d = (c.generate d).hush := by
  have hvisits := c.visitAll_hush d c.hush.translator.generate d.tree.flat (e := .generating) rfl
  rw [generate, generate, hvisits]
  refine Outcome.andThen_hush _ _ fun c d ↦ ?_
  simp only [Outcome.hush, progress_hush, c.filter_progress (e := .writing) rfl]
  rfl

theorem convert_hush (host : Host (StateM ω)) (c : Converter σ) (w : ω) :
    (c.hush.convert host).run w =
      let done := (c.convert host).run w
      (done.1.hush, done.2) := by
  rcases hdocument : c.document? with _ | d
  · have hhush : c.hush.document? = none := hdocument
    simp only [convert, hdocument, hhush]
    rfl
  · have hhush : c.hush.document? = some d := hdocument
    have hanalyze : c.hush.analyze d = (c.analyze d).hush :=
      c.visitAll_hush d c.translator.analyze d.tree.preorder rfl
    simp only [convert, hdocument, hhush, hanalyze]
    rcases hanalyzed : c.analyze d with ⟨c', events, e | d'⟩
    · rfl
    · have houtline : c'.hush.writeOutline host d' = c'.writeOutline host d' := rfl
      simp only [Outcome.hush, StateT.run_bind, houtline]
      rcases (c'.writeOutline host d').run w with ⟨e | u, w'⟩
      · rfl
      · have hgenerate := Outcome.andThen_hush ⟨c', events, .ok d'⟩ _ generate_hush
        exact congrArg (fun o ↦ (o, w')) hgenerate

theorem pass_hush (c : Converter σ) (visit : Reviser.Visit σ) (method : Reviser.Method)
    {e : Event} (he : e.isWarning = false) (order? : Option (List Handle)) (d : Document) :
    c.hush.pass visit method e order? d = (c.pass visit method e order? d).hush := by
  cases order? with
  | none => simp only [pass, Course.hush, Outcome.hush, progress_hush, c.filter_progress he]
  | some hs =>
    simp only [pass, Course.hush, Outcome.hush, progress_hush, c.filter_progress he]
    rfl

theorem assembleBy_hush (c : Converter σ) (tr : Reviser σ) (root : Handle) (d : Document) :
    c.hush.assembleBy tr root d = (c.assembleBy tr root d).hush := by
  have hprogress := c.filter_progress (e := .writing) rfl
  unfold assembleBy
  cases d.tree.unfolding? root with
  | none => simp only [Course.hush, Outcome.hush, progress_hush, hprogress]
  | some b =>
    simp only [Course.hush, Outcome.hush, progress_hush, hprogress]
    rfl

theorem generateBy_hush (tr : Reviser σ) (root : Handle) (c : Converter σ) (d : Document) :
    c.hush.generateBy tr root d = (c.generateBy tr root d).hush := by
  have hvisits := c.pass_hush tr.generate .generate (e := .generating) rfl d.tree.flatOrder? d
  rw [generateBy, generateBy, hvisits]
  exact Course.andThen_hush _ _ fun c d ↦ c.assembleBy_hush tr root d

theorem convertBy_hush (host : Host (StateM ω)) (tr : Reviser σ) (c : Converter σ) (w : ω) :
    (c.hush.convertBy host tr).run w =
      let done := (c.convertBy host tr).run w
      (done.1.hush, done.2) := by
  rcases hdocument : c.document? with _ | d
  · have hhush : c.hush.document? = none := hdocument
    simp only [convertBy, hdocument, hhush]
    rfl
  · have hhush : c.hush.document? = some d := hdocument
    rcases hroot : d.tree.root? with _ | root
    · simp only [convertBy, hdocument, hhush, hroot]
      rfl
    · have hanalyze := c.pass_hush tr.analyze .analyze (e := .analyzing) rfl d.tree.treeOrder? d
      simp only [convertBy, hdocument, hhush, hroot, hanalyze]
      rcases c.pass tr.analyze .analyze .analyzing d.tree.treeOrder? d with
        ⟨⟨c', events, e | d'⟩, calls⟩
      · rfl
      · have houtline : c'.hush.writeOutline host d' = c'.writeOutline host d' := rfl
        simp only [Course.hush, Outcome.hush, StateT.run_bind, houtline]
        rcases (c'.writeOutline host d').run w with ⟨e | u, w'⟩
        · rfl
        · have hgenerate := Course.andThen_hush ⟨⟨c', events, .ok d'⟩, calls⟩
            (fun c d ↦ c.generateBy tr root d) (generateBy_hush tr root)
          exact congrArg (fun o ↦ (o, w')) hgenerate

end Converter

/-- What a request comes to, with its log and the calls it takes. -/
structure Step (σ ω : Type) where
  session : Session σ ω
  answer : Answer
  events : List Event := []
  calls : List Reviser.Call := []

namespace Step

def read (done : Outcome σ Unit × ω) : Step σ ω where
  session := ⟨done.1.converter, done.2⟩
  answer := .read done.1.result
  events := done.1.events

def convert (done : Course σ Conversion × ω) : Step σ ω where
  session := ⟨done.1.converter, done.2⟩
  answer := .converted done.1.result
  events := done.1.events
  calls := done.1.calls

end Step

def Request.hush : Request → Request
  | .setQuiet _ => .setQuiet true
  | r => r

namespace Session

def hush (s : Session σ ω) : Session σ ω := ⟨s.converter.hush, s.world⟩

end Session

def Step.hush (step : Step σ ω) : Step σ ω :=
  ⟨step.session.hush, step.answer, step.events.filter Event.isWarning, step.calls⟩

namespace Session

variable {host : Host (StateM ω)} {s : Session σ ω} {r : Request}

def step (host : Host (StateM ω)) (tr : Reviser σ) (s : Session σ ω) : Request → Step σ ω
  | .readLines lines => .read (s.converter.readLines lines, s.world)
  | .readFrom produced => .read (s.converter.readFrom produced, s.world)
  | .readSource source => .read ((s.converter.readSource host source).run s.world)
  | .setQuiet quiet => ⟨{ s with converter := s.converter.setQuiet quiet }, .settled, [], []⟩
  | .convert => .convert ((s.converter.convertBy host tr).run s.world)

def steps (host : Host (StateM ω)) (tr : Reviser σ) (s : Session σ ω) :
    List Request → List (Step σ ω)
  | [] => []
  | r :: rs =>
    let step := s.step host tr r
    step :: steps host tr step.session rs

theorem step_hush (host : Host (StateM ω)) (tr : Reviser σ) (s : Session σ ω) (r : Request) :
    s.hush.step host tr r.hush = (s.step host tr r).hush := by
  cases r with
  | readLines lines =>
    have hread := s.converter.read_hush (.ofLines lines)
    exact congrArg (fun o ↦ Step.read (o, s.world)) hread
  | readFrom produced =>
    have hread := s.converter.readFrom_hush produced
    exact congrArg (fun o ↦ Step.read (o, s.world)) hread
  | readSource source =>
    have hread := s.converter.readSource_hush host source s.world
    exact congrArg Step.read hread
  | setQuiet quiet => rfl
  | convert =>
    have hconvert := s.converter.convertBy_hush host tr s.world
    exact congrArg Step.convert hconvert

theorem steps_hush (host : Host (StateM ω)) (tr : Reviser σ) (s : Session σ ω) (rs : List Request) :
    s.hush.steps host tr (rs.map Request.hush) = (s.steps host tr rs).map Step.hush := by
  induction rs generalizing s with
  | nil => rfl
  | cons r rs ih =>
    simp only [List.map_cons, steps, step_hush]
    exact congrArg _ (ih _)

theorem perform_eq_step (tr : Reviser σ) (hr : r ≠ .convert) :
    s.perform host r = ((s.step host tr r).session, (s.step host tr r).answer) := by
  cases r with
  | convert => exact absurd rfl hr
  | readLines | readFrom | readSource | setQuiet => rfl

theorem perform_hush (host : Host (StateM ω)) (s : Session σ ω) (r : Request) :
    s.hush.perform host r.hush = ((s.perform host r).1.hush, (s.perform host r).2) := by
  by_cases hr : r = .convert
  · subst hr
    have hconvert := s.converter.convert_hush host s.world
    let shown (done : Outcome σ Conversion × ω) : Session σ ω × Answer :=
      (⟨done.1.converter, done.2⟩, .converted done.1.result)
    exact congrArg shown hconvert
  · have hhush : r.hush ≠ .convert := by
      cases r <;> simp_all [Request.hush]
    let tr := s.converter.translator.reviser
    rw [perform_eq_step tr hr, perform_eq_step tr hhush, step_hush]
    rfl

theorem run_hush (host : Host (StateM ω)) (s : Session σ ω) (rs : List Request) :
    s.hush.run host (rs.map Request.hush) = ((s.run host rs).1.hush, (s.run host rs).2) := by
  induction rs generalizing s with
  | nil => rfl
  | cons r rs ih => simp only [List.map_cons, run, perform_hush, ih]

end Session

/-- What two steps have in common that differ in quietness at most. -/
structure Step.Alike (a b : Step σ ω) : Prop where
  answer : a.answer = b.answer
  world : a.session.world = b.session.world
  document : a.session.converter.document? = b.session.converter.document?
  stats : a.session.converter.stats = b.session.converter.stats
  state : a.session.converter.state = b.session.converter.state
  calls : a.calls = b.calls
  warnings : a.events.filter Event.isWarning = b.events.filter Event.isWarning

theorem Step.alike_of_hush {a b : Step σ ω} (h : a.hush = b.hush) : a.Alike b where
  answer := congrArg (·.answer) h
  world := congrArg (·.session.world) h
  document := congrArg (·.session.converter.document?) h
  stats := congrArg (·.session.converter.stats) h
  state := congrArg (·.session.converter.state) h
  calls := congrArg (·.calls) h
  warnings := congrArg (·.events) h

namespace Session

/-- Sessions that start alike but for being quiet, and are asked alike but for being made quiet, go
alike at every step, in answers, documents, files and calls. Their logs differ in progress only. -/
theorem quiet_logs_only (host : Host (StateM ω)) (tr : Reviser σ) {s s' : Session σ ω}
    {rs rs' : List Request} (hs : s.hush = s'.hush)
    (hrs : rs.map Request.hush = rs'.map Request.hush) :
    List.Forall₂ Step.Alike (s.steps host tr rs) (s'.steps host tr rs') ∧
      (s.run host rs).2 = (s'.run host rs').2 ∧
      (s.run host rs).1.hush = (s'.run host rs').1.hush := by
  have hsteps : (s.steps host tr rs).map Step.hush = (s'.steps host tr rs').map Step.hush := by
    rw [← steps_hush, ← steps_hush, hs, hrs]
  have hrun : ((s.run host rs).1.hush, (s.run host rs).2) =
      ((s'.run host rs').1.hush, (s'.run host rs').2) := by
    rw [← run_hush, ← run_hush, hs, hrs]
  obtain ⟨hsession, hanswers⟩ := Prod.mk.inj hrun
  refine ⟨?_, hanswers, hsession⟩
  rw [← List.forall₂_eq_eq_eq, List.forall₂_map_left_iff, List.forall₂_map_right_iff] at hsteps
  exact hsteps.imp fun _ _ h ↦ Step.alike_of_hush h

theorem quiet_logs_only_pruned :
    let document := "PPI::Document".toList
    let tr : Reviser Unit := {
      analyze := fun h r ↦
        let tree := r.document.tree.modify h fun n ↦ { n with children := n.children.pop }
        (⟨(), { r.document with tree }⟩, none)
      generate := fun _ r ↦ (r, some .noDocument) }
    let s : Session Unit World := ⟨.echo { debugDump := some "out".toList }, {}⟩
    let s' : Session Unit World := ⟨s.converter.setQuiet true, {}⟩
    let read : Request := .readLines [document, " ".toList, "  PPI::Token::Word 'a'".toList]
    let failed : Request := .readFrom (.ok { items := [.ok document, .error .fileFailure] })
    let rs := [read, .convert, .setQuiet true, failed, .convert, .setQuiet false]
    let rs' := [read, .convert, .setQuiet false, failed, .convert, .setQuiet true]
    s.hush = s'.hush ∧ rs.map Request.hush = rs'.map Request.hush ∧
      (List.Forall₂ Step.Alike (s.steps World.host tr rs) (s'.steps World.host tr rs') ∧
        (s.run World.host rs).2 = (s'.run World.host rs').2 ∧
        (s.run World.host rs).1.hush = (s'.run World.host rs').1.hush) ∧
      (s.steps World.host tr rs).flatMap Step.events =
        [.badLine 2 " ".toList, .linesRead 3, .analyzing, .generating] ∧
      (s'.steps World.host tr rs').flatMap Step.events =
        [.badLine 2 " ".toList, .analyzing, .generating] := by
  intro document tr s s' read failed rs rs'
  exact ⟨rfl, rfl, quiet_logs_only World.host tr rfl rfl, by decide +kernel, by decide +kernel⟩

end Session

end PpiDump
