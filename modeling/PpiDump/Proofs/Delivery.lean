import PpiDump.Producer.Delivery

namespace PpiDump

def Message.line? : Message → Option Text
  | line t => some t
  | failed => none

namespace Delivery

def remaining (d : Delivery) : List Text :=
  d.queue.filterMap Message.line? ++ d.unread.map Utf8.decodeLine

/-- While the program runs, a reader tells of an error last, and one that has stopped without an
error holds nothing back. -/
structure Underway (d : Delivery) : Prop where
  running : d.child = .running
  sound : d.reading = true → .failed ∉ d.queue
  last : .failed ∉ d.queue.dropLast
  told : d.reading = false → .failed ∉ d.queue → d.unread = []

theorem underway_start (output : Bytes) (limit : Option Nat) : (start output limit).Underway :=
  ⟨rfl, nofun, nofun, nofun⟩

/-- What an error goes back to: something in the state, or a step behind it. -/
inductive Blames (d : Delivery) (actions : List Action) : Error → Prop where
  | reader (h : .failed ∈ d.queue ∨ .fail ∈ actions) : Blames d actions .fileFailure
  | limit {ms : Nat} (hlimit : d.limit = some ms) (h : d.expired = true ∨ .expire ∈ actions) :
      Blames d actions (.timedOut (ms / 1000))

structure Goes (d : Delivery) (a : Action) (d' : Delivery) : Prop where
  underway : d'.Underway
  limit : d'.limit = d.limit
  expired : d'.expired = true → d.expired = true ∨ .expire = a
  failed : .failed ∈ d'.queue → .failed ∈ d.queue ∨ .fail = a

/-- What a step of a delivery under way comes to, and what it answers. -/
inductive Advances (d : Delivery) : Action → Delivery → Option Answer → Prop where
  | silently {a : Action} {d' : Delivery} (h : Goes d a d') (hdrop : a ≠ .drop)
      (hrest : d'.remaining = d.remaining) : Advances d a d' none
  | line {d' : Delivery} {t : Text} (h : Goes d .ask d') (hrest : d.remaining = t :: d'.remaining) :
      Advances d .ask d' (some (.line t))
  | failed {d' : Delivery} {e : Error} (hchild : d'.child = .killed) (he : d.Blames [] e)
      (hrest : d.remaining = d.unread.map Utf8.decodeLine) : Advances d .ask d' (some (.failed e))
  | ended {d' : Delivery} (hchild : d'.child = .waited) (hrest : d.remaining = []) :
      Advances d .ask d' (some .ended)
  | dropped {d' : Delivery} (hchild : d'.child = .killed) : Advances d .drop d' none

section

variable {d d' : Delivery} {a : Action} {actions : List Action}

theorem Goes.blames (h : Goes d a d') {e : Error} (he : d'.Blames actions e) :
    d.Blames (a :: actions) e := by
  cases he with
  | reader he =>
    refine .reader ?_
    rw [List.mem_cons, ← or_assoc]
    exact he.imp_left h.failed
  | limit hlimit he =>
    refine .limit (h.limit ▸ hlimit) ?_
    rw [List.mem_cons, ← or_assoc]
    exact he.imp_left h.expired

theorem not_mem_dropLast_of_cons {m m' : Message} {queue : List Message}
    (h : m ∉ (m' :: queue).dropLast) : m ∉ queue.dropLast := by
  cases queue with
  | nil => exact List.not_mem_nil
  | cons m'' queue => exact fun hmem ↦ h (List.mem_cons_of_mem m' hmem)

theorem eq_nil_of_cons_dropLast {m : Message} {queue : List Message}
    (h : m ∉ (m :: queue).dropLast) : queue = [] := by
  cases queue with
  | nil => rfl
  | cons m' queue => exact absurd List.mem_cons_self h

namespace Underway

theorem stays (h : d.Underway) (hdrop : a ≠ .drop) : Advances d a d none :=
  .silently ⟨h, rfl, .inl, .inl⟩ hdrop rfl

theorem advances_send (h : d.Underway) :
    Advances d .send (d.step .send).1 (d.step .send).2 := by
  cases hunread : d.unread with
  | nil =>
    simp only [step, hunread]
    exact h.stays (by decide)
  | cons piece unread =>
    by_cases hreading : d.reading
    · have hsound := h.sound hreading
      have hqueue : .failed ∉ d.queue ++ [.line (Utf8.decodeLine piece)] := by
        simpa using hsound
      simp only [step, hunread, if_pos hreading]
      refine .silently ⟨⟨h.running, fun _ ↦ hqueue, ?_, fun hstop ↦ ?_⟩, rfl, .inl, ?_⟩
        (by decide) ?_
      · rw [List.dropLast_concat]
        exact hsound
      · cases hreading.symm.trans hstop
      · exact fun hmem ↦ absurd hmem hqueue
      · simp [remaining, hunread, Message.line?]
    · simp only [step, hunread, if_neg hreading]
      exact h.stays (by decide)

theorem advances_fail (h : d.Underway) :
    Advances d .fail (d.step .fail).1 (d.step .fail).2 := by
  by_cases hreading : d.reading
  · simp only [step, if_pos hreading]
    refine .silently ⟨⟨h.running, nofun, ?_, fun _ hnot ↦ ?_⟩, rfl, .inl, fun _ ↦ .inr rfl⟩
      (by decide) ?_
    · rw [List.dropLast_concat]
      exact h.sound hreading
    · exact absurd (List.mem_append_right _ List.mem_cons_self) hnot
    · simp [remaining, Message.line?]
  · simp only [step, if_neg hreading]
    exact h.stays (by decide)

theorem advances_close (h : d.Underway) :
    Advances d .close (d.step .close).1 (d.step .close).2 := by
  by_cases hall : d.reading && d.unread.isEmpty
  · simp only [step, if_pos hall]
    have hunread := List.isEmpty_iff.mp (Bool.and_eq_true_iff.mp hall).2
    exact .silently ⟨⟨h.running, nofun, h.last, fun _ _ ↦ hunread⟩, rfl, .inl, .inl⟩
      (by decide) rfl
  · simp only [step, if_neg hall]
    exact h.stays (by decide)

theorem advances_ask (h : d.Underway) :
    Advances d .ask (d.step .ask).1 (d.step .ask).2 := by
  have hlast := h.last
  simp only [step, ask, h.running, ne_eq, not_true_eq_false, if_false]
  cases hqueue : d.queue with
  | nil =>
    cases hreading : d.reading with
    | false =>
      have hunread := h.told hreading (hqueue ▸ List.not_mem_nil)
      exact .ended rfl (by rw [remaining, hqueue, hunread]; rfl)
    | true =>
      by_cases hexpired : d.hasExpired
      · simp only [if_pos hexpired]
        rw [hasExpired, Bool.and_eq_true, Option.isSome_iff_exists] at hexpired
        obtain ⟨hexpired, ms, hlimit⟩ := hexpired
        rw [timeout, hlimit, Option.getD_some]
        exact .failed rfl (.limit hlimit (.inl hexpired)) (by rw [remaining, hqueue]; rfl)
      · simp only [if_neg hexpired]
        exact h.stays (by decide)
  | cons m queue =>
    rw [hqueue] at hlast
    have hkept (hmem : .failed ∈ queue) : .failed ∈ d.queue := hqueue ▸ List.mem_cons_of_mem m hmem
    cases m with
    | line t =>
      refine .line ⟨⟨rfl, fun hread hmem ↦ h.sound hread (hkept hmem),
        not_mem_dropLast_of_cons hlast, fun hstop hnot ↦ h.told hstop ?_⟩, rfl, .inl,
        fun hmem ↦ .inl (hkept hmem)⟩ ?_
      · rw [hqueue]
        simpa using hnot
      · simp [remaining, hqueue, Message.line?]
    | failed =>
      refine .failed rfl (.reader (.inl (hqueue ▸ List.mem_cons_self))) ?_
      rw [remaining, hqueue, eq_nil_of_cons_dropLast hlast]
      rfl

theorem advances (h : d.Underway) (a : Action) : Advances d a (d.step a).1 (d.step a).2 := by
  cases a with
  | send => exact h.advances_send
  | fail => exact h.advances_fail
  | close => exact h.advances_close
  | expire =>
    exact .silently ⟨⟨h.running, h.sound, h.last, h.told⟩, rfl, fun _ ↦ .inr rfl, .inl⟩
      (by decide) rfl
  | ask => exact h.advances_ask
  | drop =>
    refine .dropped ?_
    simp only [step, kill, h.running]

end Underway

theorem step_gone (h : d.child ≠ .running) (a : Action) :
    (d.step a).1.child = d.child ∧
      (d.step a).2.toList = List.replicate ([a].count .ask) .ended := by
  cases a with
  | send =>
    simp only [step]
    repeat' split
    all_goals exact ⟨rfl, rfl⟩
  | fail =>
    simp only [step]
    split <;> exact ⟨rfl, rfl⟩
  | close =>
    simp only [step]
    split <;> exact ⟨rfl, rfl⟩
  | expire => exact ⟨rfl, rfl⟩
  | ask =>
    rw [step, ask, if_pos h]
    exact ⟨rfl, rfl⟩
  | drop =>
    refine ⟨?_, rfl⟩
    rw [step, kill]
    split
    · contradiction
    · rfl

def takings (d : Delivery) : List Action → List ChildState
  | [] => []
  | a :: actions =>
    let next := (d.step a).1
    (if next.child = d.child then [] else [next.child]) ++ next.takings actions

theorem run_cons (d : Delivery) (a : Action) (actions : List Action) :
    d.run (a :: actions) =
      (((d.step a).1.run actions).1, (d.step a).2.toList ++ ((d.step a).1.run actions).2) := rfl

theorem run_gone (h : d.child ≠ .running) (actions : List Action) :
    (d.run actions).1.child = d.child ∧
      (d.run actions).2 = List.replicate (actions.count .ask) .ended ∧
      d.takings actions = [] := by
  induction actions generalizing d with
  | nil => exact ⟨rfl, rfl, rfl⟩
  | cons a actions ih =>
    obtain ⟨hchild, hanswer⟩ := step_gone h a
    obtain ⟨hstate, hanswers, htakings⟩ := ih (hchild ▸ h)
    rw [run_cons, takings, hstate, hanswer, hanswers, htakings, hchild,
      List.replicate_append_replicate, ← List.count_append]
    exact ⟨rfl, rfl, by rw [if_pos rfl, List.append_nil]⟩

section

variable {answer? : Option Answer}

theorem takings_of_step (hstep : d.step a = (d', answer?)) (hchild : d'.child = d.child)
    (actions : List Action) : d.takings (a :: actions) = d'.takings actions := by
  rw [takings, hstep]
  exact congrArg (· ++ _) (if_pos hchild)

theorem run_of_last (hstep : d.step a = (d', answer?)) (hchild : d.child = .running)
    (hgone : d'.child ≠ .running) (actions : List Action) :
    (d.run (a :: actions)).1.child ≠ .running ∧
      (d.run (a :: actions)).2 =
        answer?.toList ++ List.replicate (actions.count .ask) .ended ∧
      d.takings (a :: actions) = [d'.child] := by
  obtain ⟨hstate, hanswers, htakings⟩ := run_gone hgone actions
  rw [run_cons, takings, hstep]
  refine ⟨hstate ▸ hgone, congrArg _ hanswers, ?_⟩
  simp only [htakings, if_neg (hchild ▸ hgone), List.append_nil]

end

/-- What becomes of the program, by how the requests end and whether the consumer loses interest. -/
def fate (error? : Option Error) (ends : Nat) (dropped : Bool) : List ChildState :=
  match error?, ends with
  | some _, _ => [.killed]
  | none, _ + 1 => [.waited]
  | none, 0 => if dropped then [.killed] else []

/-- When a request is answered by an error: after some steps which gave all lines that the reader
had handed over by then. -/
structure Fails (d : Delivery) (before : List Action) (lines : List Text) (e : Error) : Prop where
  answers : (d.run before).2 = lines.map .line
  complete : d.remaining = lines ++ (d.run before).1.unread.map Utf8.decodeLine
  blamed : d.Blames before e

/-- What a consumer gets in a run: some lines, an error or none, and some ends. -/
structure Course (d : Delivery) (actions : List Action) (lines : List Text) (error? : Option Error)
    (ends : Nat) : Prop where
  answers : (d.run actions).2 =
    lines.map .line ++ (error?.map .failed).toList ++ List.replicate ends .ended
  ordered : lines <+: d.remaining
  complete : error? = none → 0 < ends → lines = d.remaining
  fails : ∀ e, error? = some e →
    ∃ before after, actions = before ++ .ask :: after ∧ Fails d before lines e
  gone : error? ≠ none ∨ 0 < ends → (d.run actions).1.child ≠ .running
  taken : d.takings actions = fate error? ends (actions.contains .drop)

variable {lines : List Text} {error? : Option Error} {ends : Nat} {e : Error} {t : Text}

theorem Fails.silently (hstep : d.step a = (d', none)) (h : Goes d a d')
    (hrest : d'.remaining = d.remaining) (f : Fails d' actions lines e) :
    Fails d (a :: actions) lines e where
  answers := by rw [run_cons, hstep]; exact f.answers
  complete := by rw [run_cons, hstep, ← hrest]; exact f.complete
  blamed := h.blames f.blamed

theorem Fails.line (hstep : d.step .ask = (d', some (.line t))) (h : Goes d .ask d')
    (hrest : d.remaining = t :: d'.remaining) (f : Fails d' actions lines e) :
    Fails d (.ask :: actions) (t :: lines) e where
  answers := by rw [run_cons, hstep, f.answers]; rfl
  complete := by rw [run_cons, hstep, hrest, f.complete]; rfl
  blamed := h.blames f.blamed

namespace Course

theorem nil (d : Delivery) : Course d [] [] none 0 where
  answers := rfl
  ordered := List.nil_prefix
  complete _ h := absurd h (Nat.lt_irrefl 0)
  fails := nofun
  gone h := h.elim (absurd rfl) fun h ↦ absurd h (Nat.lt_irrefl 0)
  taken := rfl

theorem silently (hstep : d.step a = (d', none)) (hchild : d.child = .running) (h : Goes d a d')
    (hdrop : a ≠ .drop) (hrest : d'.remaining = d.remaining)
    (c : Course d' actions lines error? ends) : Course d (a :: actions) lines error? ends where
  answers := by rw [run_cons, hstep]; exact c.answers
  ordered := hrest ▸ c.ordered
  complete herror hends := hrest ▸ c.complete herror hends
  fails e he := by
    obtain ⟨before, after, rfl, f⟩ := c.fails e he
    exact ⟨a :: before, after, rfl, f.silently hstep h hrest⟩
  gone := by rw [run_cons, hstep]; exact c.gone
  taken := by
    rw [takings_of_step hstep (h.underway.running.trans hchild.symm), c.taken, List.contains_cons,
      beq_false_of_ne hdrop.symm, Bool.false_or]

theorem line (hstep : d.step .ask = (d', some (.line t))) (hchild : d.child = .running)
    (h : Goes d .ask d') (hrest : d.remaining = t :: d'.remaining)
    (c : Course d' actions lines error? ends) :
    Course d (.ask :: actions) (t :: lines) error? ends where
  answers := by rw [run_cons, hstep, c.answers]; rfl
  ordered := by rw [hrest]; exact (List.prefix_cons_inj t).mpr c.ordered
  complete herror hends := hrest ▸ congrArg (t :: ·) (c.complete herror hends)
  fails e he := by
    obtain ⟨before, after, rfl, f⟩ := c.fails e he
    exact ⟨.ask :: before, after, rfl, f.line hstep h hrest⟩
  gone := by rw [run_cons, hstep]; exact c.gone
  taken := by rw [takings_of_step hstep (h.underway.running.trans hchild.symm), c.taken]; rfl

theorem failed (hstep : d.step .ask = (d', some (.failed e))) (hchild : d.child = .running)
    (hkilled : d'.child = .killed) (he : d.Blames [] e)
    (hrest : d.remaining = d.unread.map Utf8.decodeLine) :
    Course d (.ask :: actions) [] (some e) (actions.count .ask) := by
  obtain ⟨hgone, hanswers, htakings⟩ := run_of_last hstep hchild (by simp [hkilled]) actions
  exact
    { answers := hanswers
      ordered := List.nil_prefix
      complete := nofun
      fails := fun _ h ↦ ⟨[], actions, rfl, rfl, hrest, Option.some.inj h ▸ he⟩
      gone := fun _ ↦ hgone
      taken := htakings.trans (by rw [hkilled]; rfl) }

theorem ended (hstep : d.step .ask = (d', some .ended)) (hchild : d.child = .running)
    (hwaited : d'.child = .waited) (hrest : d.remaining = []) :
    Course d (.ask :: actions) [] none (actions.count .ask + 1) := by
  obtain ⟨hgone, hanswers, htakings⟩ := run_of_last hstep hchild (by simp [hwaited]) actions
  exact
    { answers := hanswers
      ordered := List.nil_prefix
      complete := fun _ _ ↦ hrest.symm
      fails := nofun
      gone := fun _ ↦ hgone
      taken := htakings.trans (by rw [hwaited]; rfl) }

theorem dropped (hstep : d.step .drop = (d', none)) (hchild : d.child = .running)
    (hkilled : d'.child = .killed) (hask : .ask ∉ actions) :
    Course d (.drop :: actions) [] none 0 := by
  obtain ⟨hgone, hanswers, htakings⟩ := run_of_last hstep hchild (by simp [hkilled]) actions
  rw [List.count_eq_zero_of_not_mem hask] at hanswers
  exact
    { answers := hanswers
      ordered := List.nil_prefix
      complete := fun _ h ↦ absurd h (Nat.lt_irrefl 0)
      fails := nofun
      gone := fun _ ↦ hgone
      taken := htakings.trans (by rw [hkilled, List.contains_cons]; rfl) }

end Course

/-- The induction is on the steps; a delivery under way goes on or is over for good. -/
theorem Underway.course (h : d.Underway)
    (hdrop : actions.Pairwise fun a b ↦ a = .drop → b ≠ .ask) :
    ∃ lines error? ends, Course d actions lines error? ends := by
  induction actions generalizing d with
  | nil => exact ⟨_, _, _, .nil d⟩
  | cons a actions ih =>
    rw [List.pairwise_cons] at hdrop
    have hadvances := h.advances a
    generalize hstep : d.step a = after at hadvances
    obtain ⟨d', answer?⟩ := after
    cases hadvances with
    | silently hgoes hne hrest =>
      obtain ⟨lines, error?, ends, c⟩ := ih hgoes.underway hdrop.2
      exact ⟨lines, error?, ends, c.silently hstep h.running hgoes hne hrest⟩
    | @line _ t hgoes hrest =>
      obtain ⟨lines, error?, ends, c⟩ := ih hgoes.underway hdrop.2
      exact ⟨t :: lines, error?, ends, c.line hstep h.running hgoes hrest⟩
    | failed hchild he hrest => exact ⟨_, _, _, .failed hstep h.running hchild he hrest⟩
    | ended hchild hrest => exact ⟨_, _, _, .ended hstep h.running hchild hrest⟩
    | dropped hchild =>
      have hask : .ask ∉ actions := fun hmem ↦ hdrop.1 .ask hmem rfl rfl
      exact ⟨_, _, _, .dropped hstep h.running hchild hask⟩

end

/-- A consumer that has lost interest asks no more. Otherwise the steps may come in any order: the
answers are lines of the output in order, at most one error, and then ends. -/
theorem run_answers (output : Bytes) (limit : Option Nat) (actions : List Action)
    (h : actions.Pairwise fun a b ↦ a = .drop → b ≠ .ask) :
    let d := start output limit
    let all := output.pieces.map Utf8.decodeLine
    ∃ lines error? ends,
      (d.run actions).2 =
          lines.map .line ++ (error?.map .failed).toList ++ List.replicate ends .ended ∧
        lines <+: all ∧
        (error? = none → 0 < ends → lines = all) ∧
        (∀ e, error? = some e → ∃ before after, actions = before ++ .ask :: after ∧
          (d.run before).2 = lines.map .line ∧
          all = lines ++ (d.run before).1.unread.map Utf8.decodeLine ∧
          (e = .fileFailure ∧ .fail ∈ before ∨
            ∃ ms, limit = some ms ∧ e = .timedOut (ms / 1000) ∧ .expire ∈ before)) ∧
        (error? ≠ none ∨ 0 < ends → ∀ more,
          ((d.run actions).1.run more).2 = List.replicate (more.count .ask) .ended) ∧
        d.takings actions = fate error? ends (actions.contains .drop) := by
  obtain ⟨lines, error?, ends, c⟩ := (underway_start output limit).course h
  refine ⟨lines, error?, ends, c.answers, c.ordered, c.complete, fun e he ↦ ?_,
    fun hends more ↦ (run_gone (c.gone hends) more).2.1, c.taken⟩
  obtain ⟨before, after, hactions, f⟩ := c.fails e he
  refine ⟨before, after, hactions, f.answers, f.complete, ?_⟩
  cases f.blamed with
  | reader hfail => exact .inl ⟨rfl, hfail.resolve_left List.not_mem_nil⟩
  | limit hlimit hexpire => exact .inr ⟨_, hlimit, rfl, hexpire.resolve_left Bool.false_ne_true⟩

theorem run_answers_timeout :
    let actions : List Action :=
      [.send, .expire, .ask, .ask, .send, .ask, .close, .ask, .drop]
    let d := start [0x61, 0x0D, 0x0A, 0x62] (some 1500)
    (actions.Pairwise fun a b ↦ a = .drop → b ≠ .ask) ∧
      (d.run actions).2 = [.line ['a'], .failed (.timedOut 1), .ended, .ended] ∧
      d.takings actions = [.killed] ∧
      ∃ lines error? ends,
        (d.run actions).2 =
            lines.map .line ++ (error?.map .failed).toList ++ List.replicate ends .ended ∧
          lines <+: [['a'], ['b']] ∧ d.takings actions = fate error? ends true := by
  have hdrop : ([.send, .expire, .ask, .ask, .send, .ask, .close, .ask, .drop] :
      List Action).Pairwise fun a b ↦ a = .drop → b ≠ .ask := by decide
  obtain ⟨lines, error?, ends, hanswers, hordered, -, -, -, htaken⟩ :=
    run_answers [0x61, 0x0D, 0x0A, 0x62] (some 1500) _ hdrop
  exact ⟨hdrop, by decide +kernel, by decide +kernel, lines, error?, ends, hanswers, hordered, htaken⟩

end Delivery

end PpiDump
