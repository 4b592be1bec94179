import OfferDispatch.Proofs.Callbacks
import OfferDispatch.Proofs.Operations
import OfferDispatch.Proofs.Watches

/-!
# Two ways to ask for workers

A host may ask the scheduler for workers by itself, or submit commands to a desk, which asks on its
behalf. Let a desk meet one thing after another: commands to be handled, and whatever else reaches
the scheduler from the cluster or from hosts. Beside it, let a host ask a scheduler of its own for
the same things at the same points, with callbacks of its own choice in place of the event stream.

As long as no watch gives up a worker, both schedulers do the same: their states are equal but for
the callbacks, the same is said to the cluster, and hosts are told the same. The desk publishes what
the host is told about the workers from commands, each notice as one event and in the same order,
and in between one event for each launch: that the worker waits, or that it has failed.
-/

namespace OfferDispatch

variable {δ κ ν : Type}

/-! ## One run after another -/

def Run.map (f : κ → ν) (r : Run δ κ) : Run δ ν :=
  ⟨r.scheduler.map f, r.told.map (.map f), r.reply⟩

section Runs

variable [ClusterDriver δ]

namespace Scheduler

theorem map_run (f : κ → ν) (env : Surroundings) (s : Scheduler δ κ) (o : Operation κ) :
    (s.map f).run env (o.map f) = (s.run env o).map f := by
  rw [← toRun_chronicle, map_chronicle, ← toRun_chronicle]
  rfl

/-- Nobody is called back while a worker is requested, and the one event that answers a launch says
whether the request was taken. -/
theorem answer_request (env : Surroundings) (s : Scheduler δ κ) (spec : WorkerSpec Float)
    (callback : κ) :
    let run := s.run env (.request spec callback)
    run.told = [] ∧
      (run.reply = some .done ∧ (Command.launch spec).answer run.reply = [.enqueued spec.name] ∨
        ∃ error, run.reply = some (.refused error) ∧
          (Command.launch spec).answer run.reply = [.failed spec.name]) := by
  intro run
  obtain ⟨silent, ⟨error, refused, -⟩ | ⟨-, -, -, done, -⟩⟩ := s.quiet_run_request env spec callback
  · refine ⟨silent, .inr ⟨error, refused, ?_⟩⟩
    rw [show run.reply = some (.refused error) from refused]
    rfl
  · refine ⟨silent, .inl ⟨done, ?_⟩⟩
    rw [show run.reply = some .done from done]
    rfl

/-- The runs of a scheduler that is asked one thing after another. -/
def runs (s : Scheduler δ κ) : List (Demand κ) → List (Run δ κ)
  | [] => []
  | d :: rest =>
    let run := s.run d.env d.operation
    run :: run.scheduler.runs rest

theorem runs_map (f : κ → ν) (s : Scheduler δ κ) (demands : List (Demand κ)) :
    (s.map f).runs (demands.map (.map f)) = (s.runs demands).map (.map f) := by
  induction demands generalizing s with
  | nil => rfl
  | cons d rest ih =>
      have first : (s.map f).run (d.map f).env (d.map f).operation =
          (s.run d.env d.operation).map f := map_run f d.env s d.operation
      simp only [List.map_cons, runs]
      rw [first]
      exact congrArg _ (ih _)

/-- Each run is made for what the scheduler was asked at its place. -/
theorem exists_of_mem_zip_runs {α : Type} {asked : α → Demand κ} {s : Scheduler δ κ} {xs : List α}
    {x : α} {run : Run δ κ} (made : (x, run) ∈ xs.zip (s.runs (xs.map asked))) :
    ∃ t : Scheduler δ κ, run = t.run (asked x).env (asked x).operation := by
  induction xs generalizing s with
  | nil => cases made
  | cons first rest ih =>
      rw [List.map_cons, runs, List.zip_cons_cons, List.mem_cons] at made
      obtain now | later := made
      · obtain ⟨rfl, rfl⟩ := Prod.mk.inj now
        exact ⟨s, rfl⟩
      · exact ih later

/-- What becomes of a scheduler does not depend on what has been noted before. -/
theorem scheduler_foldl_ask {h k : History δ κ} (same : h.scheduler = k.scheduler)
    (demands : List (Demand κ)) :
    (demands.foldl History.ask h).scheduler = (demands.foldl History.ask k).scheduler := by
  induction demands generalizing h k with
  | nil => exact same
  | cons d rest ih =>
      have next : (h.ask d).scheduler = (k.ask d).scheduler := by
        rw [History.ask, History.ask, same]
      exact ih next

/-- A history is made of its runs. -/
theorem foldl_ask_runs (h : History δ κ) (demands : List (Demand κ)) :
    (demands.foldl History.ask h).told = h.told ++ (h.scheduler.runs demands).flatMap (·.told) ∧
      (demands.foldl History.ask h).replies =
        h.replies ++ (h.scheduler.runs demands).map (·.reply) := by
  induction demands generalizing h with
  | nil => simp [runs]
  | cons d rest ih =>
      obtain ⟨told, replies⟩ := ih (h.ask d)
      rw [List.foldl_cons, told, replies]
      simp [runs, History.ask]

theorem after_runs (s : Scheduler δ κ) (demands : List (Demand κ)) :
    (s.after demands).told = (s.runs demands).flatMap (·.told) ∧
      (s.after demands).replies = (s.runs demands).map (·.reply) := by
  simpa [after] using foldl_ask_runs { scheduler := s } demands

end Scheduler

end Runs

/-! ## Notices as events -/

def Listener.isStream : Listener κ → Bool
  | stream => true
  | host _ => false

/-- The notices to callbacks that stand for the event stream, each as one event. -/
def echoed (f : ν → Listener κ) (told : List (Notice ν)) : List StateEvent :=
  (told.filter fun n => (f n.callback).isStream).map fun n => .notice n.kind n.place

theorem streamed_map (f : ν → Listener κ) (told : List (Notice ν)) :
    streamed (told.map (.map f)) = echoed f told := by
  induction told with
  | nil => rfl
  | cons n rest ih =>
      rw [streamed] at ih
      rw [streamed, echoed, List.map_cons, List.filterMap_cons, List.filter_cons, ih]
      simp only [Notice.map]
      cases f n.callback <;> rfl

/-! ## What a desk meets -/

/-- Something that a desk meets. -/
inductive Errand (κ : Type)
  /-- A command is to be handled. -/
  | command (c : Command)
  /-- The scheduler is asked something else. -/
  | operation (o : Operation (Listener κ))

namespace Errand

/-- What the errand asks of the scheduler. -/
def asks : Errand κ → Operation (Listener κ)
  | command c => c.request
  | operation o => o

/-- What is published in the end, besides what the scheduler has told. -/
def answer : Errand κ → Option Reply → List StateEvent
  | command c, reply => c.answer reply
  | operation _, _ => []

end Errand

/-- An errand, and what has been and is the case when it comes. -/
structure Occurrence (κ : Type) where
  /-- The milliseconds in which watches have been attended to in the meantime. -/
  looks : List Nat := []
  env : Surroundings
  errand : Errand κ

def Occurrence.demand (x : Occurrence κ) : Demand (Listener κ) := ⟨x.env, x.errand.asks⟩

namespace Desk

variable [ClusterDriver δ]

/-- The desk when an occurrence comes. -/
def expect (d : Desk δ κ) (x : Occurrence κ) : Desk δ κ :=
  { x.looks.foldl look d with
    date := x.env.now
    nodes := fun _ => x.env.nodes }

/-- Runs an errand. -/
def attempt (d : Desk δ κ) : Errand κ → Desk δ κ
  | .command c => d.handle c
  | .operation o => (d.run o).1

def meet (d : Desk δ κ) (x : Occurrence κ) : Desk δ κ := (d.expect x).attempt x.errand

/-- The desk when a command has been handled and its worker is not yet watched. -/
def settled (d : Desk δ κ) (c : Command) : Desk δ κ :=
  let handled := d.scheduler.handle d.surroundings c
  { (d.adopt handled.run).publish handled.events with pipeline := d.pipeline.finish }

theorem handle_eq (d : Desk δ κ) (c : Command) :
    d.handle c = if (d.scheduler.handle d.surroundings c).watched then
      (d.settled c).watch c.target else d.settled c := rfl

/-- If an errand has a worker watched, it is not given up at once. -/
def Tolerates (d : Desk δ κ) : Errand κ → Prop
  | .command c =>
    let e := d.settled c
    (d.scheduler.handle d.surroundings c).watched = true →
      ∀ w ∈ (e.scheduler.await e.clock c.target e.settings.pollInterval
        e.settings.agentTimeout).toOption, ¬ e.Expires c.target w
  | .operation _ => True

/-- No watch gives up a worker in the course of occurrences. -/
def Punctual (d : Desk δ κ) : List (Occurrence κ) → Prop
  | [] => True
  | x :: rest => d.Patient x.looks ∧ (d.expect x).Tolerates x.errand ∧ (d.meet x).Punctual rest

instance (d : Desk δ κ) : (errand : Errand κ) → Decidable (d.Tolerates errand)
  | .command _ => inferInstanceAs (Decidable (_ = true → ∀ w ∈ Except.toOption _, _))
  | .operation _ => .isTrue trivial

instance decidablePunctual (d : Desk δ κ) : (xs : List (Occurrence κ)) → Decidable (d.Punctual xs)
  | [] => .isTrue trivial
  | x :: rest =>
    have := decidablePunctual (d.meet x) rest
    inferInstanceAs (Decidable (_ ∧ _ ∧ _))

variable {d : Desk δ κ}

/-! ## One occurrence -/

/-- From one desk to another, a run of the scheduler was made, hosts were told what it tells them,
and events were published: those of the run, and then an answer. -/
structure Reports (d e : Desk δ κ) (run : Run δ (Listener κ)) (answer : List StateEvent) :
    Prop where
  scheduler : e.scheduler = run.scheduler
  told : e.told = d.told ++ toHosts run.told
  outbox : e.outbox = d.outbox ++ (streamed run.told ++ answer)

omit [ClusterDriver δ] in
theorem Reports.watched {e : Desk δ κ} {run : Run δ (Listener κ)} {answer : List StateEvent}
    (h : d.Reports e run answer) (watches : List (TaskId × Watch)) :
    d.Reports { e with watches := watches } run answer := ⟨h.scheduler, h.told, h.outbox⟩

/-- A watch that does not give up at once makes no difference to what is reported. -/
theorem reports_handle {c : Command} (tolerates : d.Tolerates (.command c)) :
    d.Reports (d.handle c) (d.scheduler.run d.surroundings c.request)
      (c.answer (d.scheduler.run d.surroundings c.request).reply) := by
  have reports : d.Reports (d.settled c) (d.scheduler.run d.surroundings c.request)
      (c.answer (d.scheduler.run d.surroundings c.request).reply) := ⟨rfl, rfl, rfl⟩
  rw [handle_eq]
  split
  · next watched =>
      rw [watch]
      split
      · next w begins =>
          have waits := tolerates watched w (by rw [begins]; rfl)
          obtain ⟨watches, same⟩ := attend_of_not_expires waits
          rw [same]
          exact reports.watched watches
      · exact reports
  · exact reports

/-- A desk has its scheduler do what it is asked in an occurrence, and reports on it. -/
theorem reports_meet {x : Occurrence κ} (patient : d.Patient x.looks)
    (tolerates : (d.expect x).Tolerates x.errand) :
    d.Reports (d.meet x) (d.scheduler.run x.env x.errand.asks)
      (x.errand.answer (d.scheduler.run x.env x.errand.asks).reply) := by
  obtain ⟨clock, watches, same⟩ := foldl_look patient
  have expected : d.expect x = { d with
      clock := clock
      watches := watches
      date := x.env.now
      nodes := fun _ => x.env.nodes } := by
    rw [expect, same]
  rw [meet]
  rw [expected] at tolerates ⊢
  cases errand : x.errand with
  | command c =>
      rw [errand] at tolerates
      obtain ⟨scheduler, told, outbox⟩ := reports_handle tolerates
      exact ⟨scheduler, told, outbox⟩
  | operation o =>
      refine ⟨rfl, rfl, ?_⟩
      rw [Errand.answer, List.append_nil]
      rfl

/-! ## A course of occurrences -/

/-- What a desk does in a course of occurrences is what its scheduler does when it is asked for the
same by a host, and the desk reports on each of the runs in turn. -/
theorem foldl_meet {xs : List (Occurrence κ)} (punctual : d.Punctual xs) :
    (xs.foldl meet d).scheduler = (d.scheduler.after (xs.map (·.demand))).scheduler ∧
      (xs.foldl meet d).told =
        d.told ++ toHosts ((d.scheduler.runs (xs.map (·.demand))).flatMap (·.told)) ∧
      (xs.foldl meet d).outbox =
        d.outbox ++ (xs.zip (d.scheduler.runs (xs.map (·.demand)))).flatMap fun met =>
          streamed met.2.told ++ met.1.errand.answer met.2.reply := by
  induction xs generalizing d with
  | nil => simp [toHosts, Scheduler.runs]
  | cons x rest ih =>
      obtain ⟨patient, tolerates, later⟩ := punctual
      have reports := reports_meet patient tolerates
      obtain ⟨scheduler, told, outbox⟩ := ih later
      rw [List.foldl_cons, scheduler, told, outbox, reports.scheduler, reports.told,
        reports.outbox]
      refine ⟨?_, ?_, ?_⟩
      · rw [List.map_cons, Scheduler.after, Scheduler.after, List.foldl_cons]
        refine Scheduler.scheduler_foldl_ask ?_ _
        rfl
      · simp [Scheduler.runs, toHosts, Occurrence.demand]
      · simp [Scheduler.runs, Occurrence.demand]

/-- Whether workers are asked for by commands or directly makes no difference. Let a desk meet one
occurrence after another without any watch giving up a worker, and let a host make the same calls on
a scheduler that is the same but for the callbacks, in which it says which of them stand for the
event stream. Then the schedulers go on to be the same, and with them all that was said to the
cluster, and hosts are told the same. What the host is told in place of the stream, the desk
publishes, each notice as one event, in the same order; at the end of each launch it publishes one
event, which is all that it publishes about it then: that the worker waits if the request was
taken, and that it has failed if it was not. -/
theorem front_ends_agree (f : ν → Listener κ) (d : Desk δ κ) (xs : List (Occurrence κ))
    (punctual : d.Punctual xs) (s : Scheduler δ ν) (same : s.map f = d.scheduler)
    (calls : List (Demand ν)) (direct : calls.map (.map f) = xs.map (·.demand)) :
    let e := xs.foldl meet d
    let h := s.after calls
    let runs := s.runs calls
    e.scheduler = h.scheduler.map f ∧ e.scheduler.log = h.scheduler.log ∧
    h.told = runs.flatMap (·.told) ∧ h.replies = runs.map (·.reply) ∧
    e.told = d.told ++ toHosts (h.told.map (.map f)) ∧
    e.outbox = d.outbox ++ ((xs.zip runs).flatMap fun met =>
      echoed f met.2.told ++ met.1.errand.answer met.2.reply) ∧
    (runs.flatMap fun run => echoed f run.told) = echoed f h.told ∧
    (∀ x run spec, (x, run) ∈ xs.zip runs → x.errand = .command (.launch spec) →
      run.told = [] ∧
        (run.reply = some .done ∧ x.errand.answer run.reply = [.enqueued spec.name] ∨
          ∃ error, run.reply = some (.refused error) ∧
            x.errand.answer run.reply = [.failed spec.name])) := by
  intro e h runs
  obtain ⟨scheduler, told, outbox⟩ := foldl_meet punctual
  obtain ⟨toldRuns, replies⟩ := s.after_runs calls
  have course : d.scheduler.after (xs.map (·.demand)) = h.map f := by
    rw [← same, ← direct]
    exact History.after_map f s calls
  have mapped : d.scheduler.runs (xs.map (·.demand)) = runs.map (.map f) := by
    rw [← same, ← direct]
    exact Scheduler.runs_map f s calls
  have state : e.scheduler = h.scheduler.map f := by
    rw [scheduler, course]
    rfl
  have heard : (runs.map (Run.map f)).flatMap (·.told) = h.told.map (.map f) := by
    rw [toldRuns, List.map_flatMap, List.flatMap_map]
    rfl
  refine ⟨state, ?_, toldRuns, replies, ?_, ?_, ?_, ?_⟩
  · rw [state]
    rfl
  · rw [told, mapped, heard]
  · rw [outbox, mapped, List.zip_map_right, List.flatMap_map]
    simp only [← streamed_map]
    rfl
  · rw [toldRuns, echoed, List.filter_flatMap, List.map_flatMap]
    rfl
  · intro x run spec met launch
    have there : (x, run.map f) ∈ xs.zip (d.scheduler.runs (xs.map (·.demand))) := by
      rw [mapped, List.zip_map_right]
      exact List.mem_map_of_mem met
    obtain ⟨t, made⟩ := Scheduler.exists_of_mem_zip_runs there
    have asked : run.map f = t.run x.env (.request spec .stream) := by
      rw [made, Occurrence.demand, launch]
      rfl
    obtain ⟨silent, reply⟩ := t.answer_request x.env spec .stream
    rw [← asked] at silent reply
    rw [launch]
    exact ⟨List.map_eq_nil_iff.1 silent, reply⟩

end Desk

namespace Plain

def desk : Desk Recorder Unit where
  settings := {}
  scheduler := .new {} session
  date := ⟨0, 0⟩
  nodes := fun _ => 1
  pipeline := .new {}
  flow := .scheduler

/-- A worker is launched, and launched again while it runs; then it is killed. -/
def shiftwork : List (Occurrence Unit) :=
  [⟨[], moment, .command (.launch (worker "w"))⟩,
    ⟨[0, 1000], moment, .operation (.offers [offer "o"])⟩,
    ⟨[2000], moment, .operation (.status ⟨⟨"w"⟩, .running, none⟩)⟩,
    ⟨[3000], moment, .command (.launch (worker "w"))⟩,
    ⟨[], moment, .command (.kill ⟨"w"⟩)⟩,
    ⟨[], moment, .operation (.status ⟨⟨"w"⟩, .killed, none⟩)⟩]

/-- The same by a host, which tells its two requests apart. -/
def byHand : List (Demand Nat) :=
  [⟨moment, .request (worker "w") 1⟩, ⟨moment, .offers [offer "o"]⟩,
    ⟨moment, .status ⟨⟨"w"⟩, .running, none⟩⟩, ⟨moment, .request (worker "w") 2⟩,
    ⟨moment, .cancel ⟨"w"⟩⟩, ⟨moment, .status ⟨⟨"w"⟩, .killed, none⟩⟩]

/-- The host is called back about its first request only, and the desk publishes the same, with the
failure of the second launch in between. -/
theorem front_ends_agree_shiftwork :
    let e := shiftwork.foldl Desk.meet desk
    let h := (Scheduler.new {} session).after byHand
    desk.Punctual shiftwork ∧
      e.scheduler = h.scheduler.map (fun _ => .stream) ∧ e.scheduler.log = h.scheduler.log ∧
      h.told.map (fun n => (n.callback, n.kind)) = [(1, .running), (1, .failed)] ∧
      e.outbox = [.enqueued ⟨"w"⟩, .notice .running ⟨⟨"w"⟩, some ⟨"agent"⟩⟩, .failed ⟨"w"⟩,
        .killRequested ⟨"w"⟩, .notice .failed ⟨⟨"w"⟩, some ⟨"agent"⟩⟩] := by
  intro e h
  have punctual : desk.Punctual shiftwork := by decide +kernel
  obtain ⟨state, log, -⟩ := Desk.front_ends_agree (fun _ => .stream) desk shiftwork punctual
    (.new {} session) rfl byHand rfl
  exact ⟨punctual, state, log, by decide +kernel, by decide +kernel⟩

end Plain

end OfferDispatch
