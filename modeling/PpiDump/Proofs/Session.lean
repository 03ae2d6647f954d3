import PpiDump.Proofs.Echo
import PpiDump.World

namespace PpiDump

variable {σ ω : Type}

inductive Request where
  | readLines (lines : List Text)
  | readFrom (produced : Except Error Transcript)
  | readSource (source : Bytes)
  | setQuiet (quiet : Bool)
  | convert

inductive Answer where
  | read (result : Except Error Unit)
  | settled
  | converted (result : Except Error Conversion)
  deriving DecidableEq

def Converter.readFrom (c : Converter σ) : Except Error Transcript → Outcome σ Unit
  | .ok t => c.read t
  | .error e => ⟨c, [], .error e⟩

structure Session (σ ω : Type) where
  converter : Converter σ
  world : ω

namespace Session

def perform (host : Host (StateM ω)) (s : Session σ ω) : Request → Session σ ω × Answer
  | .readLines lines =>
    let o := s.converter.readLines lines
    ({ s with converter := o.converter }, .read o.result)
  | .readFrom produced =>
    let o := s.converter.readFrom produced
    ({ s with converter := o.converter }, .read o.result)
  | .readSource source =>
    let done := (s.converter.readSource host source).run s.world
    (⟨done.1.converter, done.2⟩, .read done.1.result)
  | .setQuiet quiet => ({ s with converter := s.converter.setQuiet quiet }, .settled)
  | .convert =>
    let done := (s.converter.convert host).run s.world
    (⟨done.1.converter, done.2⟩, .converted done.1.result)

def run (host : Host (StateM ω)) (s : Session σ ω) : List Request → Session σ ω × List Answer
  | [] => (s, [])
  | r :: rs =>
    let next := s.perform host r
    let done := run host next.1 rs
    (done.1, next.2 :: done.2)

end Session

/-- What a request to read is answered from. It depends on the dumper and on the surroundings, but
not on what has been read. -/
def Request.produced? (host : Host (StateM ω)) (dumper : Dumper) (w : ω) :
    Request → Option (Except Error Transcript)
  | readLines lines => some (.ok (.ofLines lines))
  | readFrom produced => some produced
  | readSource source => some ((dumper.dump host source).run w).1
  | setQuiet _ | convert => none

namespace Converter

theorem readFrom_cases (c : Converter σ) (produced : Except Error Transcript) :
    (∃ e, (c.readFrom produced).result = .error e ∧ (c.readFrom produced).converter = c) ∨
      ∃ lines tree stats, Tree.ofLines? lines = .ok (tree, stats) ∧
        ∀ c' : Converter σ, (c'.readFrom produced).result = .ok () ∧
          (c'.readFrom produced).converter =
            { c' with document? := some (.ofTree tree), stats } := by
  cases produced with
  | error e => exact .inl ⟨e, rfl, rfl⟩
  | ok t =>
    rcases c.read_cases t with hfailed | ⟨lines, tree, stats, hitems, hlines⟩
    · exact .inl hfailed
    · exact .inr ⟨lines, tree, stats, hlines, fun c' ↦ c'.read_ok hitems hlines⟩

/-- The document and the statistics are those of the lines read last, in notes of any conversions
since. -/
inductive Remembers (c : Converter σ) : Option (List Text) → Prop
  | nothing (hdocument : c.document? = none) : Remembers c none
  | lines {lines : List Text} {tree : Tree} {notes : Notes}
      (hlines : Tree.ofLines? lines = .ok (tree, c.stats))
      (hdocument : c.document? = some ⟨tree, notes⟩) (hfit : notes.Fit tree) :
      Remembers c (some lines)

/-- What stays so in a session without a file for the outline. -/
structure Recalls (c : Converter σ) (dumper : Dumper) (lines? : Option (List Text)) : Prop where
  translator : c.translator = .echo
  debugDump : c.options.debugDump = none
  dumper : c.options.dumper = dumper
  memory : c.Remembers lines?

theorem recalls_echo {options : Options} (hdebug : options.debugDump = none) :
    (echo options).Recalls options.dumper none :=
  ⟨rfl, hdebug, rfl, .nothing rfl⟩

end Converter

namespace Session

variable {host : Host (StateM ω)} {dumper : Dumper} {s s' : Session σ ω} {r : Request}
  {rs : List Request} {lines? : Option (List Text)} {produced : Except Error Transcript}

theorem perform_produced (h : r.produced? host s.converter.options.dumper s.world = some produced) :
    (s.perform host r).1.converter = (s.converter.readFrom produced).converter ∧
      (s.perform host r).2 = .read (s.converter.readFrom produced).result := by
  cases r with
  | readLines lines | readFrom produced =>
    obtain rfl := Option.some.inj h
    exact ⟨rfl, rfl⟩
  | readSource source =>
    obtain rfl := Option.some.inj h
    simp only [perform, Converter.readSource, StateT.run_bind]
    rcases (s.converter.options.dumper.dump host source).run s.world with ⟨t | e, w⟩
    · exact ⟨rfl, rfl⟩
    · exact ⟨rfl, rfl⟩
  | setQuiet quiet | convert => cases h

theorem perform_convert_none (hdocument : s.converter.document? = none) :
    s.perform host .convert = (s, .converted (.error .noDocument)) := by
  simp only [perform, Converter.convert, hdocument]
  rfl

theorem perform_convert_lines (host : Host (StateM ω)) {lines : List Text} {tree : Tree}
    {notes : Notes} (hc : s.converter.Recalls dumper lines?)
    (hlines : Tree.ofLines? lines = .ok (tree, s.converter.stats))
    (hdocument : s.converter.document? = some ⟨tree, notes⟩) (hfit : notes.Fit tree) :
    ∃ notes' : Notes, notes'.Fit tree ∧ s.perform host .convert =
      ({ s with converter := { s.converter with document? := some ⟨tree, notes'⟩ } },
        .converted (.ok ⟨Emitter.emit (recordsOf lines), s.converter.stats⟩)) := by
  obtain ⟨b, ns, -, hns, hne, rfl, -⟩ := Tree.ofLines?_ok hlines
  obtain ⟨text, notes', done, failed, hconvert, hfit', hconverter, hresult, -⟩ :=
    Converter.convert_echo host hc.translator hns hne hdocument hfit
  rw [Options.outlined_none hc.debugDump] at hconvert
  refine ⟨notes', hfit', ?_⟩
  simp only [perform, hconvert]
  rw [← hconverter, ← hresult]
  rfl

theorem perform_read_error {e : Error} (h : (s.perform host r).2 = .read (.error e)) :
    (s.perform host r).1.converter = s.converter := by
  cases hproduced : r.produced? host s.converter.options.dumper s.world with
  | none =>
    cases r with
    | readLines | readFrom | readSource => cases hproduced
    | setQuiet | convert => cases h
  | some produced =>
    obtain ⟨hconverter, hanswer⟩ := perform_produced hproduced
    rcases s.converter.readFrom_cases produced with ⟨e', -, hsame⟩ | ⟨_, _, _, -, hall⟩
    · exact hconverter.trans hsame
    · rw [hanswer, (hall s.converter).1] at h
      cases h

theorem recalls_convert (hc : s.converter.Recalls dumper lines?) :
    (s.perform host .convert).1.converter.Recalls dumper lines? := by
  cases hc.memory with
  | nothing hdocument =>
    rw [perform_convert_none hdocument]
    exact hc
  | lines hlines hdocument hfit =>
    obtain ⟨notes', hfit', hperform⟩ := perform_convert_lines host hc hlines hdocument hfit
    rw [hperform]
    exact ⟨hc.translator, hc.debugDump, hc.dumper, .lines hlines rfl hfit'⟩

theorem recalls_perform (hc : s.converter.Recalls dumper lines?)
    (hanswer : (s.perform host r).2 ≠ .read (.ok ())) :
    (s.perform host r).1.converter.Recalls dumper lines? := by
  cases r with
  | readLines | readFrom | readSource =>
    rcases hread : (s.perform host _).2 with (e | u) | _ | _
    · rw [perform_read_error hread]
      exact hc
    · exact absurd hread hanswer
    · cases hread
    · cases hread
  | setQuiet quiet =>
    refine ⟨hc.translator, hc.debugDump, hc.dumper, ?_⟩
    cases hc.memory with
    | nothing hdocument => exact .nothing hdocument
    | lines hlines hdocument hfit => exact .lines hlines hdocument hfit
  | convert => exact recalls_convert hc

theorem recalls_read (hc : s.converter.Recalls dumper lines?)
    (hanswer : (s.perform host r).2 = .read (.ok ())) :
    ∃ lines, ∀ (s' : Session σ ω) lines?', s'.converter.Recalls dumper lines?' →
      s'.world = s.world → (s'.perform host r).1.converter.Recalls dumper (some lines) := by
  cases hproduced : r.produced? host dumper s.world with
  | none =>
    cases r with
    | readLines | readFrom | readSource => cases hproduced
    | setQuiet | convert => cases hanswer
  | some produced =>
    have hread (s' : Session σ ω) {lines?' : Option (List Text)}
        (hc' : s'.converter.Recalls dumper lines?') (hworld : s'.world = s.world) :
        (s'.perform host r).1.converter = (s'.converter.readFrom produced).converter ∧
          (s'.perform host r).2 = .read (s'.converter.readFrom produced).result := by
      apply perform_produced
      rw [hc'.dumper, hworld, hproduced]
    rcases s.converter.readFrom_cases produced with ⟨e, herror, -⟩ | ⟨lines, tree, stats, hlines, hall⟩
    · rw [(hread s hc rfl).2, herror] at hanswer
      cases hanswer
    · refine ⟨lines, fun s' lines?' hc' hworld ↦ ?_⟩
      rw [(hread s' hc' hworld).1, (hall s'.converter).2]
      exact ⟨hc'.translator, hc'.debugDump, hc'.dumper, .lines hlines rfl (Notes.blank_fit tree)⟩

theorem recalls_run (hc : s.converter.Recalls dumper lines?)
    (hanswers : .read (.ok ()) ∉ (s.run host rs).2) :
    (s.run host rs).1.converter.Recalls dumper lines? := by
  induction rs generalizing s with
  | nil => exact hc
  | cons r rs ih =>
    rw [run, List.mem_cons, not_or] at hanswers
    exact ih (recalls_perform hc (Ne.symm hanswers.1)) hanswers.2

theorem exists_recalls_run (host : Host (StateM ω)) (hc : s.converter.Recalls dumper lines?)
    (rs : List Request) :
    ∃ lines?', (s.run host rs).1.converter.Recalls dumper lines?' := by
  induction rs generalizing s lines? with
  | nil => exact ⟨lines?, hc⟩
  | cons r rs ih =>
    by_cases hanswer : (s.perform host r).2 = .read (.ok ())
    · obtain ⟨lines, hlines⟩ := recalls_read hc hanswer
      exact ih (hlines s lines? hc rfl)
    · exact ih (recalls_perform hc hanswer)

theorem run_append (host : Host (StateM ω)) (s : Session σ ω) (rs rs' : List Request) :
    s.run host (rs ++ rs') = (((s.run host rs).1.run host rs').1,
      (s.run host rs).2 ++ ((s.run host rs).1.run host rs').2) := by
  induction rs generalizing s with
  | nil => rfl
  | cons r rs ih => simp only [List.cons_append, run, ih]

theorem perform_convert_recalls (host : Host (StateM ω)) {lines : List Text}
    (hc : s.converter.Recalls dumper (some lines)) :
    ∃ tree stats, Tree.ofLines? lines = .ok (tree, stats) ∧
      (s.perform host .convert).2 = .converted (.ok ⟨Emitter.emit (recordsOf lines), stats⟩) := by
  cases hc.memory with
  | @lines lines tree notes hlines hdocument hfit =>
    obtain ⟨notes', -, hperform⟩ := perform_convert_lines host hc hlines hdocument hfit
    exact ⟨tree, _, hlines, congrArg Prod.snd hperform⟩

/-- Two sessions that make the same successful read in the same surroundings convert to the same
result, however far apart they were before, and whatever else is asked of one of them. -/
theorem convert_after_read {lines?' : Option (List Text)} (hc : s.converter.Recalls dumper lines?)
    (hc' : s'.converter.Recalls dumper lines?') (hworld : s'.world = s.world)
    (hanswer : (s.perform host r).2 = .read (.ok ()))
    (hanswers : .read (.ok ()) ∉ ((s.perform host r).1.run host rs).2) :
    ∃ conversion,
      (((s.perform host r).1.run host rs).1.perform host .convert).2 = .converted (.ok conversion) ∧
      ((s'.perform host r).1.perform host .convert).2 = .converted (.ok conversion) := by
  obtain ⟨lines, hread⟩ := recalls_read hc hanswer
  have hlast := recalls_run (hread s lines? hc rfl) hanswers
  have honly := hread s' lines?' hc' hworld
  obtain ⟨tree, stats, hlines, hconvert⟩ := perform_convert_recalls host hlast
  obtain ⟨tree', stats', hlines', hconvert'⟩ := perform_convert_recalls host honly
  cases hlines.symm.trans hlines'
  exact ⟨_, hconvert, hconvert'⟩

theorem convert_keeps (host : Host (StateM ω)) (hc : s.converter.Recalls dumper lines?)
    {d : Document} (hd : s.converter.document? = some d) :
    ∃ notes : Notes, notes.size = d.notes.size ∧ (s.perform host .convert).1 =
      { s with converter := { s.converter with document? := some { d with notes } } } := by
  cases hc.memory with
  | nothing hdocument => cases hdocument.symm.trans hd
  | lines hlines hdocument hfit =>
    obtain ⟨notes', hfit', hperform⟩ := perform_convert_lines host hc hlines hdocument hfit
    obtain rfl := Option.some.inj (hdocument.symm.trans hd)
    have hsize : notes'.size = _ := hfit'.size.trans hfit.size.symm
    exact ⟨notes', hsize, congrArg Prod.fst hperform⟩

theorem only_last_read (host : Host (StateM ω)) {options : Options}
    (hdebug : options.debugDump = none) (w : ω) (history : List Request) :
    let fresh (w : ω) : Session Unit ω := ⟨.echo options, w⟩
    let s := ((fresh w).run host history).1
    (.read (.ok ()) ∉ ((fresh w).run host history).2 →
      (s.perform host .convert).2 = .converted (.error .noDocument)) ∧
    (∀ before r after, history = before ++ r :: after →
      let found := ((fresh w).run host before).1
      (found.perform host r).2 = .read (.ok ()) →
      .read (.ok ()) ∉ ((found.perform host r).1.run host after).2 →
      ∃ conversion, (s.perform host .convert).2 = .converted (.ok conversion) ∧
        (((fresh found.world).perform host r).1.perform host .convert).2 =
          .converted (.ok conversion)) ∧
    (∀ r e, (s.perform host r).2 = .read (.error e) →
      (s.perform host r).1.converter = s.converter) ∧
    (s.converter.document? = none → (s.perform host .convert).1 = s) ∧
    ∀ d, s.converter.document? = some d → ∃ notes : Notes, notes.size = d.notes.size ∧
      (s.perform host .convert).1 =
        { s with converter := { s.converter with document? := some { d with notes } } } := by
  intro fresh s
  have hfresh (w : ω) : (fresh w).converter.Recalls options.dumper none :=
    Converter.recalls_echo hdebug
  refine ⟨?_, ?_, ?_, ?_, ?_⟩
  · intro hanswers
    have hnone := recalls_run (hfresh w) hanswers
    cases hnone.memory with
    | nothing hdocument => rw [perform_convert_none hdocument]
  · rintro before r after rfl found hanswer hanswers
    obtain ⟨_, hfound⟩ := exists_recalls_run host (hfresh w) before
    have hs : s = ((found.perform host r).1.run host after).1 := by
      dsimp only [s]
      rw [run_append]
      rfl
    rw [hs]
    exact convert_after_read hfound (hfresh found.world) rfl hanswer hanswers
  · intro r e h
    exact perform_read_error h
  · intro hdocument
    rw [perform_convert_none hdocument]
  · intro d hd
    obtain ⟨_, hrecalls⟩ := exists_recalls_run host (hfresh w) history
    exact convert_keeps host hrecalls hd

theorem only_last_read_second :
    let document := "PPI::Document".toList
    let before : List Request := [.convert, .readLines [document, "  PPI::Token::Word 'a'".toList],
      .convert, .readSource [0x61], .setQuiet true]
    let r : Request := .readLines [document, "  PPI::Structure::List ( ... )".toList]
    let after : List Request := [.convert, .readFrom (.ok { items := [.ok document, .error .fileFailure] }),
      .readLines [], .readLines [document, document]]
    let fresh (w : World) : Session Unit World := ⟨.echo {}, w⟩
    let found := ((fresh {}).run World.host before).1
    let s := ((fresh {}).run World.host (before ++ r :: after)).1
    (found.run World.host (r :: after)).2 =
        [.read (.ok ()), .converted (.ok ⟨"<?php\n()".toList, s.converter.stats⟩),
          .read (.error .fileFailure), .read (.error .emptyDump), .read (.error (.secondRoot 2))] ∧
      ∃ conversion, (s.perform World.host .convert).2 = .converted (.ok conversion) ∧
        (((fresh found.world).perform World.host r).1.perform World.host .convert).2 =
          .converted (.ok conversion) := by
  intro document before r after fresh found s
  have hanswers : (found.run World.host (r :: after)).2 =
      [.read (.ok ()), .converted (.ok ⟨"<?php\n()".toList, s.converter.stats⟩),
        .read (.error .fileFailure), .read (.error .emptyDump), .read (.error (.secondRoot 2))] := by
    decide +kernel
  have hdebug : ({} : Options).debugDump = none := rfl
  obtain ⟨-, hlast, -⟩ := only_last_read World.host hdebug {} (before ++ r :: after)
  obtain ⟨hread, hafter⟩ := List.cons.inj hanswers
  refine ⟨hanswers, hlast before r after rfl hread ?_⟩
  rw [hafter]
  simp

end Session

end PpiDump
