import OfferDispatch.Proofs.Watches

/-!
# What becomes of commands

Those who have a handle submit commands, pass handles on and give them up, and may tell the pipeline
to stop. Meanwhile a loop takes one command after another; what it has taken comes to an end, with
or without success. When it notices that it is to stop, it takes no more, and then it stops. All of
them do one thing at a time, in any order whatsoever.

The books of a shift say which commands were accepted, which were handed over to be handled, and
what became of them. Every command that was accepted is done, being handled or waiting, in this
order, unless the loop has stopped: then it may have abandoned the last of those it had taken, and
the others were discarded. No command is left out, handled twice or overtaken.
-/

namespace OfferDispatch

namespace Pipeline

variable {p : Pipeline} {c : Command}

/-- A command is refused because the pipeline has stopped or because the queue is full, or it joins
the queue. -/
theorem submit_cases (p : Pipeline) (c : Command) :
    (p.closed = true ∧ p.submit c = (.error ⟨.closed, c.operation, c.target⟩, p)) ∨
    (p.closed = false ∧ p.capacity ≤ p.waiting.length ∧
      p.submit c = (.error ⟨.dropped, c.operation, c.target⟩, p)) ∨
    (p.closed = false ∧ p.waiting.length < p.capacity ∧
      p.submit c = (.ok (), { p with waiting := p.waiting ++ [c] })) := by
  rw [submit]
  by_cases closed : p.closed = true
  · exact .inl ⟨closed, if_pos closed⟩
  rw [if_neg closed]
  have opened : p.closed = false := Bool.eq_false_iff.2 closed
  by_cases full : p.capacity ≤ p.waiting.length
  · exact .inr (.inl ⟨opened, full, if_pos full⟩)
  · exact .inr (.inr ⟨opened, Nat.lt_of_not_le full, if_neg full⟩)

theorem submit_eq_ok_iff :
    (p.submit c).1 = .ok () ↔ p.closed = false ∧ p.waiting.length < p.capacity := by
  obtain ⟨closed, same⟩ | ⟨opened, full, same⟩ | ⟨opened, room, same⟩ := p.submit_cases c
  · simp [same, closed]
  · simp [same, full]
  · simp [same, opened, room]

theorem submit_eq_dropped_iff :
    (p.submit c).1 = .error ⟨.dropped, c.operation, c.target⟩ ↔
      p.closed = false ∧ p.capacity ≤ p.waiting.length := by
  obtain ⟨closed, same⟩ | ⟨opened, full, same⟩ | ⟨opened, room, same⟩ := p.submit_cases c
  · simp [same, closed]
  · simp [same, opened, full]
  · simp [same, room]

theorem submit_eq_closed_iff :
    (p.submit c).1 = .error ⟨.closed, c.operation, c.target⟩ ↔ p.closed = true := by
  obtain ⟨closed, same⟩ | ⟨opened, full, same⟩ | ⟨opened, room, same⟩ := p.submit_cases c
  · simp [same, closed]
  · simp [same, opened]
  · simp [same, opened]

/-- To take a command does not stop the pipeline. -/
theorem closed_of_take? {q : Pipeline} (taken : p.take? = some (c, q)) : q.closed = p.closed := by
  rw [take?] at taken
  split at taken <;> cases taken
  rfl

end Pipeline

/-! ## Books -/

inductive PipelineStep
  | submit (c : Command)
  | clone
  | dropHandle
  | shutdown
  /-- The loop takes the next command. -/
  | take
  /-- The loop is done with the command that it has taken, which may have failed. -/
  | finish (result : Except String Unit)
  /-- The loop notices that it is to stop. -/
  | notice
  /-- The loop, having noticed, stops. -/
  | close

/-- A pipeline, its loop, and the books on its commands. -/
structure Shift where
  pipeline : Pipeline
  /-- The loop has noticed that it is to stop. -/
  leaving : Bool := false
  accepted : List Command := []
  handed : List Command := []
  /-- The commands that came to an end, and how. -/
  done : List (Command × Except String Unit) := []
  /-- The command that was being handled when the loop stopped. -/
  abandoned : Option Command := none
  /-- The commands that were waiting when the loop stopped. -/
  discarded : List Command := []

namespace Shift

def submit (s : Shift) (c : Command) : Shift :=
  match s.pipeline.submit c with
  | (.ok (), p) => { s with pipeline := p, accepted := s.accepted ++ [c] }
  | (.error _, p) => { s with pipeline := p }

/-- The loop takes the next command, if it is free to. -/
def take (s : Shift) : Shift :=
  if s.leaving then s
  else match s.pipeline.take? with
    | some (c, p) => { s with pipeline := p, handed := s.handed ++ [c] }
    | none => s

/-- The loop is done with the command that it has taken. -/
def finish (s : Shift) (result : Except String Unit) : Shift :=
  if s.leaving then s
  else match s.pipeline.current with
    | some c => { s with pipeline := s.pipeline.finish, done := s.done ++ [(c, result)] }
    | none => s

/-- The loop stops, if it has noticed that it is to. -/
def close (s : Shift) : Shift :=
  if s.leaving ∧ s.pipeline.closed = false then
    { s with
      pipeline := s.pipeline.close
      abandoned := s.pipeline.current
      discarded := s.pipeline.waiting }
  else s

/-- The shift after one more thing has been done. It takes a handle to do something to the pipeline
from outside. -/
def step (s : Shift) : PipelineStep → Shift
  | .submit c => if s.pipeline.handles = 0 then s else s.submit c
  | .clone => if s.pipeline.handles = 0 then s else { s with pipeline := s.pipeline.clone }
  | .dropHandle => { s with pipeline := s.pipeline.dropHandle }
  | .shutdown => if s.pipeline.handles = 0 then s else { s with pipeline := s.pipeline.signal }
  | .take => s.take
  | .finish result => s.finish result
  | .notice => if s.pipeline.mustStop then { s with leaving := true } else s
  | .close => s.close

def after (s : Shift) (steps : List PipelineStep) : Shift := steps.foldl step s

def new (settings : PipelineSettings) : Shift := { pipeline := .new settings }

def accepts (s : Shift) : PipelineStep → List Command
  | .submit c => if s.pipeline.handles ≠ 0 ∧ (s.pipeline.submit c).1.isOk then [c] else []
  | _ => []

/-- What the loop does to handle one command after another, with the results they have. -/
def serve (results : List (Except String Unit)) : List PipelineStep :=
  results.flatMap fun result => [.take, .finish result]

theorem after_append (s : Shift) (steps more : List PipelineStep) :
    s.after (steps ++ more) = (s.after steps).after more :=
  List.foldl_append

/-! ## The books are right -/

/-- Every command that was accepted is accounted for, and the queue is no longer than it may be. -/
structure Balanced (capacity : Nat) (s : Shift) : Prop where
  capacity_eq : s.pipeline.capacity = capacity
  bounded : s.pipeline.waiting.length ≤ capacity
  accepted : s.accepted = s.handed ++ s.pipeline.waiting ++ s.discarded
  handed : s.handed = s.done.map (·.1) ++ s.pipeline.current.toList ++ s.abandoned.toList
  opened : s.pipeline.closed = false → s.abandoned = none ∧ s.discarded = []
  closed : s.pipeline.closed = true →
    s.leaving = true ∧ s.pipeline.current = none ∧ s.pipeline.waiting = []
  leaving : s.leaving = true → s.pipeline.mustStop = true

variable {capacity : Nat} {s : Shift}

namespace Balanced

theorem opened_of_staying (h : s.Balanced capacity) (staying : s.leaving = false) :
    s.pipeline.closed = false := by
  refine Bool.eq_false_iff.2 ?_
  intro stopped
  rw [(h.closed stopped).1] at staying
  cases staying

/-- At most one command is being handled, or was when the loop stopped. -/
theorem length_handed (h : s.Balanced capacity) : s.handed.length ≤ s.done.length + 1 := by
  have one : s.pipeline.current.toList.length + s.abandoned.toList.length ≤ 1 := by
    cases running : s.pipeline.closed with
    | false =>
        rw [(h.opened running).1]
        cases s.pipeline.current <;> simp
    | true =>
        rw [(h.closed running).2.1]
        cases s.abandoned <;> simp
  have handed := congrArg List.length h.handed
  rw [List.length_append, List.length_append, List.length_map] at handed
  omega

theorem submit (h : s.Balanced capacity) (c : Command) : (s.submit c).Balanced capacity := by
  rw [Shift.submit]
  obtain ⟨-, same⟩ | ⟨-, -, same⟩ | ⟨opened, room, same⟩ := s.pipeline.submit_cases c
  · rw [same]
    exact h
  · rw [same]
    exact h
  · rw [same]
    have kept : s.discarded = [] := (h.opened opened).2
    refine ⟨h.capacity_eq, ?_, ?_, h.handed, h.opened,
      fun stopped => absurd stopped (Bool.eq_false_iff.1 opened), h.leaving⟩
    · rw [List.length_append, List.length_singleton, ← h.capacity_eq]
      exact room
    · rw [h.accepted, kept, List.append_nil, List.append_nil, List.append_assoc]

theorem take (h : s.Balanced capacity) : s.take.Balanced capacity := by
  rw [Shift.take, Pipeline.take?]
  by_cases leaving : s.leaving = true
  · rw [if_pos leaving]
    exact h
  rw [if_neg leaving]
  cases idle : s.pipeline.current with
  | some c => exact h
  | none =>
      cases queue : s.pipeline.waiting with
      | nil => exact h
      | cons c rest =>
          have opened := h.opened_of_staying (Bool.eq_false_iff.2 leaving)
          obtain ⟨none, kept⟩ := h.opened opened
          have shorter := h.bounded
          rw [queue, List.length_cons] at shorter
          refine ⟨h.capacity_eq, Nat.le_of_succ_le shorter, ?_, ?_, h.opened,
            fun stopped => absurd stopped (Bool.eq_false_iff.1 opened),
            fun gone => absurd gone leaving⟩
          · rw [h.accepted, queue, kept]
            simp
          · rw [h.handed, idle, none]
            simp

theorem finish (h : s.Balanced capacity) (result : Except String Unit) :
    (s.finish result).Balanced capacity := by
  rw [Shift.finish]
  by_cases leaving : s.leaving = true
  · rw [if_pos leaving]
    exact h
  rw [if_neg leaving]
  cases busy : s.pipeline.current with
  | none => exact h
  | some c =>
      have opened := h.opened_of_staying (Bool.eq_false_iff.2 leaving)
      refine ⟨h.capacity_eq, h.bounded, h.accepted, ?_, h.opened,
        fun stopped => absurd stopped (Bool.eq_false_iff.1 opened), h.leaving⟩
      rw [h.handed, busy, (h.opened opened).1]
      simp [Pipeline.finish]

theorem close (h : s.Balanced capacity) : s.close.Balanced capacity := by
  rw [Shift.close]
  split
  · next stops =>
      obtain ⟨leaving, opened⟩ := stops
      obtain ⟨none, kept⟩ := h.opened opened
      refine ⟨h.capacity_eq, Nat.zero_le _, ?_, ?_, nofun, fun _ => ⟨leaving, rfl, rfl⟩,
        h.leaving⟩
      · rw [h.accepted, kept]
        simp [Pipeline.close]
      · rw [h.handed, none]
        simp [Pipeline.close]
  · exact h

/-- Whatever is done, the books go on to be right. -/
theorem step (h : s.Balanced capacity) (x : PipelineStep) : (s.step x).Balanced capacity := by
  cases x with
  | submit c =>
      rw [Shift.step]
      split
      · exact h
      · exact h.submit c
  | clone =>
      rw [Shift.step]
      split
      · exact h
      · next held =>
          refine { h with leaving := fun gone => ?_ }
          have stops := h.leaving gone
          simp only [Pipeline.mustStop, beq_eq_false_iff_ne.2 held, Bool.or_false] at stops
          simp [Pipeline.mustStop, Pipeline.clone, stops]
  | dropHandle =>
      refine { h with leaving := fun gone => ?_ }
      have stops := h.leaving gone
      simp only [Pipeline.mustStop, Bool.or_eq_true, beq_iff_eq] at stops
      simp only [Shift.step, Pipeline.mustStop, Pipeline.dropHandle, Bool.or_eq_true, beq_iff_eq]
      exact stops.imp_right fun none => by rw [none]
  | shutdown =>
      rw [Shift.step]
      split
      · exact h
      · exact { h with leaving := fun _ => rfl }
  | take => exact h.take
  | finish result => exact h.finish result
  | notice =>
      rw [Shift.step]
      split
      · next stops =>
          exact { h with
            closed := fun stopped => ⟨rfl, (h.closed stopped).2⟩
            leaving := fun _ => stops }
      · exact h
  | close => exact h.close

theorem after (h : s.Balanced capacity) (steps : List PipelineStep) :
    (s.after steps).Balanced capacity := by
  induction steps generalizing s with
  | nil => exact h
  | cons x rest ih => exact ih (h.step x)

end Balanced

theorem balanced_new (settings : PipelineSettings) :
    (new settings).Balanced (max settings.queueSize 1) :=
  ⟨rfl, Nat.zero_le _, rfl, rfl, fun _ => ⟨rfl, rfl⟩, nofun, nofun⟩

theorem accepted_take (s : Shift) : s.take.accepted = s.accepted := by
  rw [take]
  split
  · rfl
  · split <;> rfl

theorem accepted_finish (s : Shift) (result : Except String Unit) :
    (s.finish result).accepted = s.accepted := by
  rw [finish]
  split
  · rfl
  · split <;> rfl

theorem accepted_notice (s : Shift) : (s.step .notice).accepted = s.accepted := by
  rw [step]
  split <;> rfl

theorem accepted_close (s : Shift) : s.close.accepted = s.accepted := by
  rw [close]
  split <;> rfl

/-- The commands that are submitted with success are written down in their order. -/
theorem accepted_step (s : Shift) (x : PipelineStep) :
    (s.step x).accepted = s.accepted ++ s.accepts x := by
  cases x with
  | submit c =>
      rw [step, accepts]
      by_cases gone : s.pipeline.handles = 0
      · simp [gone]
      · rw [if_neg gone, submit]
        cases outcome : s.pipeline.submit c with
        | mk result p => cases result <;> simp [gone, Except.isOk, Except.toBool]
  | clone | shutdown =>
      refine Eq.trans ?_ (List.append_nil _).symm
      rw [step]
      split <;> rfl
  | dropHandle => exact (List.append_nil _).symm
  | take => exact (accepted_take s).trans (List.append_nil _).symm
  | finish result => exact (accepted_finish s result).trans (List.append_nil _).symm
  | notice => exact (accepted_notice s).trans (List.append_nil _).symm
  | close => exact (accepted_close s).trans (List.append_nil _).symm

/-! ## The loop -/

/-- When the loop has noticed that it is to stop, nothing is handed over any more. -/
theorem handed_step_of_leaving (leaving : s.leaving = true) (x : PipelineStep) :
    (s.step x).handed = s.handed ∧ (s.step x).leaving = true := by
  have same : s.handed = s.handed ∧ s.leaving = true := ⟨rfl, leaving⟩
  cases x with
  | submit c =>
      rw [step, submit]
      split
      · exact same
      · split <;> exact same
  | clone | shutdown =>
      rw [step]
      split <;> exact same
  | dropHandle => exact same
  | take =>
      rw [step, take, if_pos leaving]
      exact same
  | finish result =>
      rw [step, finish, if_pos leaving]
      exact same
  | notice =>
      rw [step]
      split
      · exact ⟨rfl, rfl⟩
      · exact same
  | close =>
      rw [step, close]
      split <;> exact same

theorem handed_after_of_leaving (leaving : s.leaving = true) (steps : List PipelineStep) :
    (s.after steps).handed = s.handed := by
  induction steps generalizing s with
  | nil => rfl
  | cons x rest ih =>
      obtain ⟨same, gone⟩ := handed_step_of_leaving leaving x
      exact (ih gone).trans same

/-- A loop that is not to stop handles all that waits, one after another, whatever comes of it. -/
theorem after_serve (staying : s.leaving = false) (idle : s.pipeline.current = none)
    {results : List (Except String Unit)} (fits : results.length = s.pipeline.waiting.length) :
    (s.after (serve results)).done = s.done ++ s.pipeline.waiting.zip results ∧
      (s.after (serve results)).accepted = s.accepted ∧
      (s.after (serve results)).leaving = false := by
  induction results generalizing s with
  | nil =>
      rw [List.zip_nil_right, List.append_nil]
      exact ⟨rfl, rfl, staying⟩
  | cons result rest ih =>
      cases queue : s.pipeline.waiting with
      | nil =>
          rw [queue] at fits
          cases fits
      | cons c others =>
          rw [queue] at fits
          have served : s.after [.take, .finish result] = { s with
              pipeline := { s.pipeline with waiting := others }
              handed := s.handed ++ [c]
              done := s.done ++ [(c, result)] } := by
            simp [after, step, take, finish, Pipeline.take?, Pipeline.finish, staying, idle, queue]
          have split : s.after (serve (result :: rest)) =
              (s.after [.take, .finish result]).after (serve rest) :=
            after_append s [.take, .finish result] (serve rest)
          obtain ⟨done, accepted, stays⟩ :=
            @ih (s.after [.take, .finish result]) (by rw [served, staying]) (by rw [served, idle])
              (by rw [served]; exact Nat.succ.inj fits)
          rw [split]
          refine ⟨?_, ?_, stays⟩
          · rw [done, served, List.zip_cons_cons, List.append_assoc]
            rfl
          · rw [accepted, served]

/-- If a loop that is not to stop has taken a command, it can be done with it, be it with success or
without. -/
theorem finish_eq (staying : s.leaving = false) (result : Except String Unit) :
    s.finish result = { s with
      pipeline := s.pipeline.finish
      done := s.done ++ s.pipeline.current.toList.map (·, result) } := by
  obtain ⟨⟨_, _, current, _, _, _⟩, leaving, _⟩ := s
  obtain rfl : leaving = false := staying
  cases current <;> simp [finish, Pipeline.finish]

/-- What a loop is at comes to an end, and then it handles all that waits. -/
theorem after_finish_serve (h : s.Balanced capacity) (staying : s.leaving = false)
    (result : Except String Unit) {results : List (Except String Unit)}
    (fits : results.length = s.pipeline.waiting.length) :
    let t := s.after (.finish result :: serve results)
    t.done = s.done ++ s.pipeline.current.toList.map (·, result) ++
        s.pipeline.waiting.zip results ∧
      t.done.map (·.1) = s.accepted ∧ t.accepted = s.accepted ∧ t.leaving = false := by
  intro t
  obtain ⟨none, kept⟩ := h.opened (h.opened_of_staying staying)
  have finished := finish_eq staying result
  obtain ⟨done, accepted, stays⟩ :=
    @after_serve (s.finish result) (by rw [finished, staying]) (by rw [finished]; rfl) results
      (by rw [finished]; exact fits)
  have all : t.done = s.done ++ s.pipeline.current.toList.map (·, result) ++
      s.pipeline.waiting.zip results := by
    rw [show t = (s.finish result).after (serve results) from rfl, done, finished]
    rfl
  refine ⟨all, ?_, ?_, stays⟩
  · rw [all, h.accepted, h.handed, kept, none]
    simp [List.map_fst_zip, fits, Function.comp_def]
  · rw [show t = (s.finish result).after (serve results) from rfl, accepted, finished]

/-! ## A desk at work -/

/-- The commands that were handed to a flow without a scheduler. -/
def handlings (journal : List FlowEntry) : List Command :=
  journal.filterMap fun entry => match entry with
    | .handling c => some c
    | .dropped => none

/-- The pipeline of a shift is that of a desk, and so are the commands that were handed over. -/
structure Records {δ κ : Type} (s : Shift) (d : Desk δ κ) : Prop where
  pipeline : s.pipeline = d.pipeline
  leaving : s.leaving = d.pipeline.closed
  handed : d.flow ≠ .scheduler → s.handed = handlings d.journal

end Shift

namespace Desk

variable {δ κ : Type}

section Frame

variable [ClusterDriver δ] (d : Desk δ κ)

/-- To attend to a watch is none of the pipeline's business. -/
theorem attend_frame (worker : TaskId) (w : Watch) :
    (d.attend worker w).pipeline = d.pipeline ∧ (d.attend worker w).flow = d.flow ∧
      (d.attend worker w).journal = d.journal := by
  obtain ⟨-, same⟩ | ⟨-, watches, same⟩ := d.attend_cases worker w
  · rw [same]
    exact ⟨rfl, rfl, rfl⟩
  · rw [same]
    exact ⟨rfl, rfl, rfl⟩

/-- A command that goes to the scheduler is done when it has been handled. -/
theorem handle_frame (c : Command) :
    (d.handle c).pipeline = d.pipeline.finish ∧ (d.handle c).flow = d.flow ∧
      (d.handle c).journal = d.journal := by
  rw [handle]
  split
  · rw [watch]
    split
    · exact attend_frame _ _ _
    · exact ⟨rfl, rfl, rfl⟩
  · exact ⟨rfl, rfl, rfl⟩

end Frame

end Desk

namespace Shift

variable {δ κ : Type} {d : Desk δ κ} {s : Shift}

namespace Records

/-- A desk that is to stop stops as soon as it notices. -/
theorem close (h : s.Records d) (stops : d.pipeline.mustStop = true)
    (opened : d.pipeline.closed = false) : (s.after [.notice, .close]).Records d.close := by
  have told : s.pipeline.mustStop = true := h.pipeline ▸ stops
  have running : s.pipeline.closed = false := h.pipeline ▸ opened
  have noticed : s.step .notice = { s with leaving := true } := if_pos told
  have closes : s.after [.notice, .close] = { s with
      pipeline := s.pipeline.close
      leaving := true
      abandoned := s.pipeline.current
      discarded := s.pipeline.waiting } := by
    rw [after, List.foldl_cons, noticed]
    exact if_pos ⟨rfl, running⟩
  rw [closes]
  refine ⟨congrArg Pipeline.close h.pipeline, rfl, ?_⟩
  intro other
  have journal : d.close.journal = d.journal ++ [.dropped] := if_neg other
  rw [journal, h.handed other]
  simp [handlings]

/-- A desk takes the next command, and hands it to its flow. -/
theorem take (h : s.Records d) (opened : d.pipeline.closed = false) {c : Command} {p : Pipeline}
    (taken : d.pipeline.take? = some (c, p)) (journal : List FlowEntry)
    (noted : d.flow ≠ .scheduler → journal = d.journal ++ [.handling c]) :
    s.take.Records { d with pipeline := p, journal := journal } := by
  have staying : s.leaving = false := h.leaving.trans opened
  have takes : s.take = { s with pipeline := p, handed := s.handed ++ [c] } := by
    simp [Shift.take, staying, h.pipeline, taken]
  have still : p.closed = false := (Pipeline.closed_of_take? taken).trans opened
  rw [takes]
  refine ⟨rfl, staying.trans still.symm, ?_⟩
  intro other
  rw [noted other, h.handed other]
  simp [handlings]

/-- A desk is done with the command that it has taken. -/
theorem finish (h : s.Records d) (opened : d.pipeline.closed = false) {e : Desk δ κ}
    (pipeline : e.pipeline = d.pipeline.finish) (journal : e.journal = d.journal)
    (flow : e.flow ≠ .scheduler → d.flow ≠ .scheduler) :
    (s.finish (.ok ())).Records e := by
  have staying : s.leaving = false := h.leaving.trans opened
  rw [finish_eq staying]
  refine ⟨?_, ?_, ?_⟩
  · rw [pipeline, h.pipeline]
  · rw [pipeline]
    exact h.leaving
  · intro other
    rw [journal]
    exact h.handed (flow other)

/-- A flow without a scheduler may be done with the command at once. -/
theorem proceed (h : s.Records d) (opened : d.pipeline.closed = false) (c : Command) :
    ∃ steps, (s.after steps).Records (d.proceed c) ∧ (s.after steps).accepted = s.accepted := by
  rw [Desk.proceed]
  cases tried : d.flow.attempt? c with
  | none => exact ⟨[], h, rfl⟩
  | some outcome =>
      refine ⟨[.finish (.ok ())], h.finish opened rfl rfl ?_, accepted_finish s _⟩
      intro _ scheduler
      rw [scheduler] at tried
      cases tried

/-- What a desk does with the next command. -/
theorem takes [ClusterDriver δ] (h : s.Records d) (opened : d.pipeline.closed = false)
    {c : Command} {p : Pipeline} (taken : d.pipeline.take? = some (c, p)) :
    ∃ steps, (s.after steps).Records ({ d with pipeline := p }.begin c) ∧
      (s.after steps).accepted = s.accepted := by
  have still : p.closed = false := (Pipeline.closed_of_take? taken).trans opened
  rw [Desk.begin]
  split
  · next scheduler =>
      obtain ⟨pipeline, flow, journal⟩ := Desk.handle_frame { d with pipeline := p } c
      have took := h.take opened taken d.journal fun other => absurd scheduler other
      refine ⟨[.take, .finish (.ok ())], took.finish still pipeline journal ?_, ?_⟩
      · rw [flow]
        exact id
      · exact (accepted_finish s.take _).trans (accepted_take s)
  · obtain ⟨steps, follows, same⟩ := (h.take opened taken _ fun _ => rfl).proceed still c
    exact ⟨.take :: steps, follows, same.trans (accepted_take s)⟩

end Records

/-- Whatever a desk does in an instant with the commands it has, it does in such steps. -/
theorem exists_work [ClusterDriver δ] (h : s.Records d) (fuel : Nat) :
    ∃ steps, (s.after steps).Records (d.work fuel) ∧ (s.after steps).accepted = s.accepted := by
  induction fuel generalizing s d with
  | zero => exact ⟨[], h, rfl⟩
  | succ fuel ih =>
      rw [Desk.work]
      split
      · exact ⟨[], h, rfl⟩
      · next running =>
          have opened : d.pipeline.closed = false := Bool.eq_false_iff.2 running
          split
          · next stops =>
              exact ⟨[.notice, .close], h.close stops opened,
                (accepted_close _).trans (accepted_notice s)⟩
          · split
            · next c busy =>
                obtain ⟨steps, follows, same⟩ := h.proceed opened c
                dsimp only
                split
                · exact ⟨steps, follows, same⟩
                · obtain ⟨more, last, kept⟩ := ih follows
                  exact ⟨steps ++ more, after_append s .. ▸ last,
                    after_append s .. ▸ kept.trans same⟩
            · split
              · next taken =>
                  obtain ⟨steps, follows, same⟩ := h.takes opened taken
                  obtain ⟨more, last, kept⟩ := ih follows
                  exact ⟨steps ++ more, after_append s .. ▸ last,
                    after_append s .. ▸ kept.trans same⟩
              · exact ⟨[], h, rfl⟩

/-! ## Commands in order -/

/-- Commands are handled in the order in which they were accepted, one at a time, and none is lost
as long as nobody has told the pipeline to stop and somebody has a handle. A command is accepted
exactly if the pipeline has not stopped and fewer commands wait than there is room for; otherwise it
is said what was to be done, and to which worker. The loop goes on with the next command whatever
came of the last one. Once it has noticed that it is to stop, it takes no more. -/
theorem commands_pass_in_order (settings : PipelineSettings) (steps : List PipelineStep) :
    let s := (new settings).after steps
    (∀ x, (s.step x).accepted = s.accepted ++ s.accepts x) ∧
    s.handed <+: s.accepted ∧
    s.handed = s.done.map (·.1) ++ s.pipeline.current.toList ++ s.abandoned.toList ∧
    s.handed.length ≤ s.done.length + 1 ∧
    (∀ c, (s.pipeline.submit c).1 = .ok () ↔
      s.pipeline.closed = false ∧ s.pipeline.waiting.length < max settings.queueSize 1) ∧
    (∀ c, (s.pipeline.submit c).1 = .error ⟨.dropped, c.operation, c.target⟩ ↔
      s.pipeline.closed = false ∧ s.pipeline.waiting.length = max settings.queueSize 1) ∧
    (∀ c, (s.pipeline.submit c).1 = .error ⟨.closed, c.operation, c.target⟩ ↔
      s.pipeline.closed = true) ∧
    (s.pipeline.mustStop = false →
      s.accepted = s.done.map (·.1) ++ s.pipeline.current.toList ++ s.pipeline.waiting ∧
        s.leaving = false ∧ s.pipeline.closed = false) ∧
    (s.leaving = false → ∀ result results, results.length = s.pipeline.waiting.length →
      let t := s.after (.finish result :: serve results)
      t.done = s.done ++ s.pipeline.current.toList.map (·, result) ++
          s.pipeline.waiting.zip results ∧
        t.done.map (·.1) = s.accepted ∧ t.accepted = s.accepted ∧ t.leaving = false) ∧
    (s.leaving = true → ∀ more, (s.after more).handed = s.handed) := by
  intro s
  have h : s.Balanced (max settings.queueSize 1) := (balanced_new settings).after steps
  refine ⟨s.accepted_step, ?_, h.handed, h.length_handed, ?_, ?_, ?_, ?_, ?_,
    handed_after_of_leaving⟩
  · exact ⟨s.pipeline.waiting ++ s.discarded, by rw [h.accepted, List.append_assoc]⟩
  · intro c
    rw [Pipeline.submit_eq_ok_iff, h.capacity_eq]
  · intro c
    rw [Pipeline.submit_eq_dropped_iff, h.capacity_eq]
    exact and_congr_right fun _ => ⟨Nat.le_antisymm h.bounded, fun full => Nat.le_of_eq full.symm⟩
  · exact fun c => Pipeline.submit_eq_closed_iff
  · intro holds
    have staying : s.leaving = false := by
      refine Bool.eq_false_iff.2 ?_
      intro leaving
      rw [h.leaving leaving] at holds
      cases holds
    have opened : s.pipeline.closed = false := h.opened_of_staying staying
    obtain ⟨none, kept⟩ := h.opened opened
    refine ⟨?_, staying, opened⟩
    rw [h.accepted, h.handed, none, kept]
    simp
  · exact fun staying result results fits => after_finish_serve h staying result fits

/-- If nobody has a handle any more, the pipeline stops without having been told to, and what waits
is lost. -/
theorem not_forall_accepted_kept :
    ¬ ∀ (settings : PipelineSettings) (steps : List PipelineStep),
      let s := (new settings).after steps
      s.pipeline.shutdown = false →
        s.accepted = s.done.map (·.1) ++ s.pipeline.current.toList ++ s.pipeline.waiting := by
  intro kept
  have lost := kept {} [.submit (.kill ⟨"w"⟩), .dropHandle, .notice, .close] rfl
  exact absurd (congrArg List.length lost) (by decide)

end Shift

namespace Plain

/-- One command may wait while another is being handled, and three are submitted. -/
def rush : List PipelineStep :=
  [.submit (.kill ⟨"v"⟩), .take, .submit (.kill ⟨"w"⟩), .submit (.kill ⟨"x"⟩)]

/-- The first of them fails, and the second is handled nevertheless; the third was refused. When
told to stop, the loop abandons the first and discards the second. -/
theorem commands_pass_in_order_rush :
    let s := (Shift.new { queueSize := 0 }).after rush
    let stopped := s.after [.shutdown, .notice]
    s.pipeline.mustStop = false ∧
      (s.pipeline.submit (.kill ⟨"x"⟩)).1 = .error ⟨.dropped, "Kill", ⟨"x"⟩⟩ ∧
      s.accepted.length = 2 ∧
      (s.leaving = false ∧ s.pipeline.closed = false) ∧
      (s.after (.finish (.error "no") :: Shift.serve [.ok ()])).done.map (·.1) = s.accepted ∧
      stopped.leaving = true ∧
      (stopped.after [.take, .close, .take]).handed = stopped.handed := by
  intro s stopped
  have holds : s.pipeline.mustStop = false := by decide
  have leaving : stopped.leaving = true := by decide
  obtain ⟨-, -, -, -, -, dropped, -, kept, goesOn, -⟩ :=
    Shift.commands_pass_in_order { queueSize := 0 } rush
  obtain ⟨-, -, -, -, -, -, -, -, -, ends⟩ :=
    Shift.commands_pass_in_order { queueSize := 0 } (rush ++ [.shutdown, .notice])
  obtain ⟨-, staying, opened⟩ := kept holds
  exact ⟨holds, (dropped _).2 (by decide), rfl, ⟨staying, opened⟩,
    (goesOn staying (.error "no") [.ok ()] rfl).2.1, leaving, ends leaving _⟩

end Plain

end OfferDispatch
