import PpiDump.Proofs.Delivery

namespace PpiDump.Delivery

variable {d d' : Delivery} {ms : Nat} {after : List Action}

theorem step_limit (d : Delivery) (a : Action) :
    (d.step a).1.limit = d.limit ∧ (d.step a).1.expired = (d.expired || a == .expire) := by
  have hkept : d.expired = (d.expired || false) := (Bool.or_false _).symm
  cases a with
  | send =>
    simp only [step]
    repeat' split
    all_goals exact ⟨rfl, hkept⟩
  | fail | close =>
    simp only [step]
    split <;> exact ⟨rfl, hkept⟩
  | expire => exact ⟨rfl, (Bool.or_true _).symm⟩
  | ask =>
    simp only [step, ask]
    repeat' split
    all_goals exact ⟨rfl, hkept⟩
  | drop =>
    simp only [step, kill]
    split <;> exact ⟨rfl, hkept⟩

theorem run_limit (d : Delivery) (actions : List Action) :
    (d.run actions).1.limit = d.limit ∧
      (d.run actions).1.expired = (d.expired || actions.contains .expire) := by
  induction actions generalizing d with
  | nil => exact ⟨rfl, (Bool.or_false _).symm⟩
  | cons a actions ih =>
    obtain ⟨hlimit, hexpired⟩ := step_limit d a
    obtain ⟨ihlimit, ihexpired⟩ := ih (d.step a).1
    rw [run_cons]
    refine ⟨ihlimit.trans hlimit, ?_⟩
    rw [ihexpired, hexpired, List.contains_cons, Bool.or_assoc, BEq.comm]

theorem run_append (d : Delivery) (actions actions' : List Action) :
    d.run (actions ++ actions') =
      (((d.run actions).1.run actions').1,
        (d.run actions).2 ++ ((d.run actions).1.run actions').2) := by
  induction actions generalizing d with
  | nil => rfl
  | cons a actions ih => simp only [List.cons_append, run_cons, ih, List.append_assoc]

def Ended (d : Delivery) : Prop := d.child ≠ .running ∨ d.queue = [] ∧ d.reading = false

/-- What is asked of a limit of `ms` milliseconds that has passed: no request is answered by a line
any more, and unless all has been delivered, the next one kills the program and is answered by the
error. -/
structure Binds (d : Delivery) (ms : Nat) (after : List Action) : Prop where
  no_line : ∀ t, .line t ∉ (d.run (.ask :: after)).2
  kills : ¬d.Ended →
    (d.step .ask).1.child = .killed ∧ (d.step .ask).2 = some (.failed (.timedOut (ms / 1000)))

theorem line_notMem_ends (t : Text) (n : Nat) : .line t ∉ List.replicate n Answer.ended := by
  intro h
  cases List.eq_of_mem_replicate h

theorem line_notMem_of_last {answer : Answer} (hstep : d.step .ask = (d', some answer))
    (hchild : d.child = .running) (hgone : d'.child ≠ .running)
    (hanswer : ∀ t, answer ≠ .line t) (t : Text) : .line t ∉ (d.run (.ask :: after)).2 := by
  intro hmem
  rw [(run_of_last hstep hchild hgone after).2.1] at hmem
  rcases List.mem_append.mp hmem with hmem | hmem
  · exact hanswer t (List.mem_singleton.mp hmem).symm
  · exact line_notMem_ends t _ hmem

theorem binds_of_gone (h : d.child ≠ .running) : d.Binds ms after where
  no_line t := by
    rw [(run_gone h (.ask :: after)).2.1]
    exact line_notMem_ends t _
  kills hended := absurd (Or.inl h) hended

theorem binds_of_empty (hchild : d.child = .running) (hqueue : d.queue = [])
    (hlimit : d.limit = some ms) (hexpired : d.expired = true) : d.Binds ms after := by
  have hpassed : d.hasExpired = true := by
    rw [hasExpired, hexpired, hlimit]
    rfl
  cases hreading : d.reading with
  | true =>
    have hstep : d.step .ask =
        ({ d with child := .killed }, some (.failed (.timedOut (ms / 1000)))) := by
      simp [step, ask, hchild, hqueue, hreading, hpassed, timeout, hlimit]
    refine ⟨?_, fun _ ↦ ?_⟩
    · exact line_notMem_of_last hstep hchild (by simp) (by simp)
    · rw [hstep]
      exact ⟨rfl, rfl⟩
  | false =>
    have hstep : d.step .ask = ({ d with child := .waited }, some .ended) := by
      simp [step, ask, hchild, hqueue, hreading]
    refine ⟨?_, fun hended ↦ ?_⟩
    · exact line_notMem_of_last hstep hchild (by simp) (by simp)
    · exact absurd (Or.inr ⟨hqueue, hreading⟩) hended

def answerOf : Message → Answer
  | .line t => .line t
  | .failed => .failed .fileFailure

theorem ask_cons {m : Message} {queue : List Message} (hchild : d.child = .running)
    (hqueue : d.queue = m :: queue) : (d.step .ask).2 = some (answerOf m) := by
  simp only [step, ask, hchild, hqueue, ne_eq, not_true_eq_false, if_false]
  cases m <;> rfl

theorem Binds.queue_eq_nil (h : d.Binds ms after) (hchild : d.child = .running) :
    d.queue = [] := by
  cases hqueue : d.queue with
  | nil => rfl
  | cons m queue =>
    have hanswer := ask_cons hchild hqueue
    cases m with
    | line t =>
      have hmem : .line t ∈ (d.run (.ask :: after)).2 := by
        rw [run_cons, hanswer]
        exact List.mem_cons_self
      exact absurd hmem (h.no_line t)
    | failed =>
      have hended : ¬d.Ended := by
        rintro (hgone | ⟨hempty, -⟩)
        · exact hgone hchild
        · cases hqueue.symm.trans hempty
      cases hanswer.symm.trans (h.kills hended).2

theorem run_sends (hreading : d.reading = true) :
    d.run (List.replicate d.unread.length .send) =
      ({ d with
          unread := []
          queue := d.queue ++ d.unread.map fun piece ↦ .line (Utf8.decodeLine piece) }, []) := by
  obtain ⟨unread, reading, queue, limit, expired, child⟩ := d
  obtain rfl : reading = true := hreading
  induction unread generalizing queue with
  | nil => simp [run]
  | cons piece unread ih =>
    have hrun := ih (queue ++ [.line (Utf8.decodeLine piece)])
    simp only at hrun
    simp only [List.length_cons, List.replicate_succ, run_cons, step, if_true, hrun]
    simp

theorem run_asks {lines : List Text} {rest : List Message} (hchild : d.child = .running)
    (hqueue : d.queue = lines.map .line ++ rest) :
    d.run (List.replicate lines.length .ask) = ({ d with queue := rest }, lines.map .line) := by
  induction lines generalizing d with
  | nil =>
    obtain rfl : d.queue = rest := hqueue
    rfl
  | cons t lines ih =>
    have hstep : d.step .ask = ({ d with queue := lines.map .line ++ rest }, some (.line t)) := by
      simp [step, ask, hchild, hqueue]
    have hrun := ih (d := { d with queue := lines.map .line ++ rest }) hchild rfl
    rw [List.length_cons, List.replicate_succ, run_cons, hstep, hrun]
    rfl

theorem run_late (output : Bytes) (limit : Option Nat) :
    let lines := output.pieces.map Utf8.decodeLine
    let d := ((start output limit).run (List.replicate lines.length .send ++ [.expire])).1
    (d.run (List.replicate lines.length .ask)).2 = lines.map .line := by
  intro lines d
  have hsends := run_sends (d := start output limit) rfl
  have hlength : lines.length = (start output limit).unread.length := List.length_map _
  have hd : d =
      { start output limit with unread := [], queue := lines.map .line, expired := true } := by
    have hqueue : output.pieces.map (fun piece ↦ .line (Utf8.decodeLine piece)) =
        lines.map Message.line := by
      rw [List.map_map]
      rfl
    dsimp only [d]
    rw [run_append, hlength, hsends]
    simp only [run, step]
    rw [← hqueue]
    rfl
  have hchild : d.child = .running := by
    rw [hd]
    rfl
  have hqueue : d.queue = lines.map .line ++ [] := by
    rw [hd, List.append_nil]
  rw [run_asks hchild hqueue]

theorem limit_binds_iff (output : Bytes) (ms : Nat) :
    (∀ before after, .expire ∈ before →
      let d := ((start output (some ms)).run before).1
      d.Binds ms after ↔ (d.child = .running → d.queue = [])) ∧
    ∃ before, .expire ∈ before ∧
      let lines := output.pieces.map Utf8.decodeLine
      let d := ((start output (some ms)).run before).1
      (d.run (List.replicate lines.length .ask)).2 = lines.map .line := by
  constructor
  · intro before after hexpire d
    obtain ⟨hlimit, hexpired⟩ := run_limit (start output (some ms)) before
    rw [List.contains_iff_mem.mpr hexpire, Bool.or_true] at hexpired
    constructor
    · intro hbinds hchild
      exact hbinds.queue_eq_nil hchild
    · intro hempty
      by_cases hchild : d.child = .running
      · exact binds_of_empty hchild (hempty hchild) hlimit hexpired
      · exact binds_of_gone hchild
  · refine ⟨_, ?_, run_late output (some ms)⟩
    exact List.mem_append_right _ List.mem_cons_self

/-- A reader that is ahead has its lines taken behind the limit, also one that it queues there. -/
theorem lines_behind_limit :
    let d := ((start [0x61, 0x0A, 0x62, 0x0A] (some 1000)).run [.send, .expire]).1
    (d.run [.ask, .send, .ask]).2 = [.line ['a'], .line ['b']] ∧
      (d.run [.ask, .send, .ask]).1.child = .running ∧ ¬d.Binds 1000 [.send, .ask] := by
  refine ⟨by decide +kernel, by decide +kernel, fun hbinds ↦ ?_⟩
  exact absurd (hbinds.queue_eq_nil rfl) (by decide +kernel)

end PpiDump.Delivery
