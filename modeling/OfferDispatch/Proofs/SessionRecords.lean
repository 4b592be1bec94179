import OfferDispatch.Proofs.Lookup
import OfferDispatch.Proofs.Turns

/-!
# Records and the session they belong to

The record of an ended task is to belong to the session in which the task has ended, and is
forgotten when that session stops. But tasks that are live at that time may end later. Their records
are made while no session runs, and nothing forgets them before the next session has stopped in its
turn: they outlive the pause, and the names of these tasks stay taken.

How often the session was stopped tells sessions apart. A record is there exactly if its task has
ended since the session was last stopped, be it in the session that runs now or before it was
started.
-/

namespace OfferDispatch

variable {δ κ : Type}

/-! ## Records are kept until they are forgotten -/

namespace Ledger

variable {l m : Ledger κ}

/-- A move forgets all records, or it drops none. -/
theorem Move.retired (h : Move l m) :
    m.generation = l.generation + 1 ∨
      m.generation = l.generation ∧ l.retired.map (·.1) <+: m.retired.map (·.1) := by
  cases h with
  | forget => exact .inl rfl
  | finish ending last at_ => exact .inr ⟨rfl, (List.prefix_append _ _).map _⟩
  | fail | launch | advance | announce => exact .inr ⟨rfl, List.prefix_rfl⟩

theorem Becomes.retired (h : Becomes l m) :
    l.generation ≤ m.generation ∧
      (m.generation = l.generation → l.retired.map (·.1) <+: m.retired.map (·.1)) := by
  induction h with
  | refl => exact ⟨Nat.le_refl _, fun _ => List.prefix_rfl⟩
  | tail _ change ih =>
      obtain ⟨le, kept⟩ := ih
      cases change with
      | enlist | withdraw => exact ⟨le, kept⟩
      | move move =>
          obtain next | ⟨same, more⟩ := move.retired
          · exact ⟨by omega, by omega⟩
          · exact ⟨by omega, fun here => (kept (by omega)).trans more⟩

end Ledger

/-! ## A session runs until it is stopped -/

namespace Scheduler

/-- `t` comes after `s`: the session has been stopped no less often, and if it has not been stopped
in between, it still runs if it did. -/
structure Follows (s t : Scheduler δ κ) : Prop where
  generation : s.generation ≤ t.generation
  running : t.generation = s.generation → s.session.running = true → t.session.running = true

namespace Follows

variable {s t u : Scheduler δ κ}

theorem of_eq (generation : t.generation = s.generation)
    (running : t.session.running = s.session.running) : s.Follows t :=
  ⟨Nat.le_of_eq generation.symm, fun _ runs => running.trans runs⟩

theorem refl (s : Scheduler δ κ) : s.Follows s := .of_eq rfl rfl

theorem trans (first : s.Follows t) (second : t.Follows u) : s.Follows u where
  generation := Nat.le_trans first.generation second.generation
  running := by
    intro same runs
    have before := first.generation
    have after := second.generation
    exact second.running (by omega) (first.running (by omega) runs)

variable [ClusterDriver δ]

theorem stop (s : Scheduler δ κ) : s.Follows s.stop where
  generation := Nat.le_succ _
  running := fun same => absurd same (Nat.succ_ne_self _)

theorem supervise (nodes : Nat) (s : Scheduler δ κ) :
    s.Follows (OfferDispatch.supervise nodes s).2 := by
  have given : s.Follows (s.giveUp nodes) := by
    rw [giveUp]
    split <;> exact .of_eq rfl rfl
  rw [supervise_eq]
  split
  · split
    · exact given.trans (.stop _)
    · exact given
  · exact .refl s

theorem perform (env : Surroundings) (s : Scheduler δ κ) (action : Action κ) :
    s.Follows (s.perform env action).2 := by
  by_cases minor : action.isMinor = true
  · have tended := minor_perform env s minor
    exact ⟨Nat.le_of_eq tended.generation.symm, fun _ => tended.running⟩
  cases action with
  | stop => exact .stop s
  | supervise | inspect => exact .supervise env.nodes s
  | place batch =>
      have placed := placed_place env.now s batch
      simp only [Scheduler.perform]
      split
      · exact .refl s
      · exact .of_eq placed.generation_eq placed.running_eq
  | turn generation =>
      have placed := placed_place env.now { s with buffer := s.buffer.drain.2 } s.buffer.drain.1
      simp only [Scheduler.perform, turn]
      split
      · split
        · exact .refl s
        · exact .of_eq placed.generation_eq placed.running_eq
      · exact .of_eq rfl rfl
  | _ => exact absurd rfl minor

theorem run (env : Surroundings) (s : Scheduler δ κ) (o : Operation κ) :
    s.Follows (s.run env o).scheduler :=
  run_preserves (P := s.Follows) (fun t action before => before.trans (.perform env t action)) o
    (.refl s)

theorem after (s : Scheduler δ κ) (earlier later : List (Demand κ)) :
    (s.after earlier).scheduler.Follows (s.after (earlier ++ later)).scheduler := by
  induction later using List.reverseRecOn with
  | nil =>
      rw [List.append_nil]
      exact .refl _
  | append_singleton later d ih =>
      rw [← List.append_assoc, after_concat]
      exact ih.trans (.run d.env _ d.operation)

end Follows

end Scheduler

/-! ## Tasks that end while no session runs -/

namespace Tracker

variable {t : Tracker κ} {task : TaskId}

/-- A status only ends the task it is for, and only if it is terminal. -/
theorem ends_of_onStatus? {status : TaskStatus} {effect : StatusEffect κ}
    (applied : t.onStatus? status = some effect) (live : t.contains task = true)
    (ended : effect.tracker.contains task = false) :
    status.task = task ∧ status.state.isTerminal = true := by
  have stays (h : effect.tracker.contains task = true) : False := by
    rw [h] at ended
    cases ended
  rw [onStatus?] at applied
  split at applied
  · next l found =>
      obtain ⟨same, -⟩ := exists_of_find? found
      split at applied
      · cases applied
        exact (stays live).elim
      · cases applied
        rw [advance] at stays
        split at stays
        · next terminal =>
            refine ⟨?_, terminal⟩
            by_contra other
            refine stays (contains_retire_of_ne _ ?_ live)
            rintro rfl
            exact other same.symm
        · split at stays
          · exact (stays (by simpa using live)).elim
          · exact (stays (by simpa using live)).elim
  · obtain ⟨_, _, rfl⟩ := Option.map_eq_some_iff.1 applied
    exact (stays live).elim

end Tracker

variable [ClusterDriver δ]

namespace Scheduler

/-- No live task ends while offers are placed. -/
theorem contains_place {s : Scheduler δ κ} {task : TaskId} (live : s.tracker.contains task = true)
    (now : Instant) (batch : List (Offer Float)) :
    (s.place now batch).scheduler.tracker.contains task = true := by
  have turned (t : Turn δ κ) (live : t.met.scheduler.tracker.contains task = true) :
      (t.after now).scheduler.tracker.contains task = true := by
    obtain ⟨same, -⟩ | ⟨l, tracked, -⟩ := t.tracker_after now
    · rw [same]
      exact live
    · rw [tracked]
      exact Tracker.contains_insert l live
  exact Placement.rel_foldl_offer
    (R := fun p q => p.scheduler.tracker.contains task = true →
      q.scheduler.tracker.contains task = true)
    (fun _ => id) (fun first second live => second (first live)) turned _ ⟨s, [], []⟩ live

/-- Without a session nothing is given up on the way to the end of an operation. -/
theorem tracker_wrapUp_of_stopped {s : Scheduler δ κ} (stopped : s.session.running = false)
    (env : Surroundings) : (s.wrapUp env).tracker = s.tracker := by
  rw [wrapUp, supervise_eq, stopped]
  split <;> rfl

/-- While no session runs, a live task only ends by a status that arrives late. -/
theorem exists_status_of_ends {s : Scheduler δ κ} {env : Surroundings} {o : Operation κ}
    {task : TaskId} (stopped : s.session.running = false)
    (live : s.tracker.contains task = true)
    (ended : (s.run env o).scheduler.tracker.contains task = false) :
    ∃ status, o = .status status ∧ status.task = task ∧ status.state.isTerminal = true := by
  have same (h : (s.run env o).scheduler.tracker = s.tracker) :
      ∃ status, o = .status status ∧ status.task = task ∧ status.state.isTerminal = true := by
    rw [h, live] at ended
    cases ended
  have stays (h : (s.run env o).scheduler.tracker.contains task = true) :
      ∃ status, o = .status status ∧ status.task = task ∧ status.state.isTerminal = true := by
    rw [h] at ended
    cases ended
  cases o with
  | status status =>
      rw [run_status] at ended
      split at ended
      · next effect applied =>
          have wrapped := tracker_wrapUp_of_stopped (s := { s with tracker := effect.tracker })
            stopped env
          rw [wrapped] at ended
          exact ⟨status, rfl, Tracker.ends_of_onStatus? applied live ended⟩
      · rw [if_neg (Bool.eq_false_iff.1 stopped), tracker_wrapUp_of_stopped stopped, live] at ended
        cases ended
  | request spec callback =>
      obtain ⟨-, ⟨e, -, quiet⟩ | ⟨r, -, -, -, quiet⟩⟩ := s.quiet_run_request env spec callback
      · exact same quiet.tracker
      · exact same quiet.tracker
  | cancel worker =>
      refine same ?_
      rw [run_cancel]
      split
      · exact tracker_wrapUp_of_stopped
          (s := { s with session := (s.session.call (.kill worker)).2 }) stopped env
      · split
        · next taken _ =>
            exact tracker_wrapUp_of_stopped (s := { s with requests := taken.2 }) stopped env
        · exact tracker_wrapUp_of_stopped stopped env
  | offers delivered =>
      by_cases multi : s.settings.multiThreaded = true
      · exact same (quiet_run_offers_of_multiThreaded env s delivered multi).tracker
      · refine stays ?_
        rw [(quiet_run_offers env s delivered (Bool.eq_false_iff.2 multi)).tracker]
        refine contains_place ?_ env.now _
        rw [(s.quiet_acceptAll delivered).tracker]
        exact live
  | process batch =>
      refine stays ?_
      rw [(quiet_run_process env s batch).tracker]
      exact contains_place live env.now batch
  | turn generation =>
      have quiet := quiet_run_turn env s generation
      rw [if_neg (Bool.eq_false_iff.1 stopped)] at quiet
      exact same quiet.tracker
  | supervise =>
      refine same ?_
      have decided : (s.run env .supervise).scheduler = (OfferDispatch.supervise env.nodes s).2 :=
        rfl
      rw [decided, supervise_eq, stopped]
      rfl
  | error | stop => exact stays live
  | rescind | registered | remark => exact same rfl

/-! ## Refused requests -/

/-- A request is refused as one of a worker there is already exactly if its cpus are in order and
its name is taken. -/
theorem reply_request_duplicateWorker_iff (env : Surroundings) (s : Scheduler δ κ)
    (spec : WorkerSpec Float) (callback : κ) (worker : TaskId) :
    (s.run env (.request spec callback)).reply = some (.refused (.duplicateWorker worker)) ↔
      worker = spec.name ∧ (0.0 ≤ spec.cpus ∧ spec.cpus.isFinite = true) ∧
        s.isTaken spec.name = true := by
  rw [run_request]
  by_cases valid : 0.0 ≤ spec.cpus ∧ spec.cpus.isFinite = true
  · by_cases taken : s.isTaken spec.name = true
    · rw [if_pos valid, if_pos taken]
      constructor
      · intro reply
        cases reply
        exact ⟨rfl, valid, taken⟩
      · rintro ⟨rfl, -, -⟩
        rfl
    · rw [if_pos valid, if_neg taken]
      constructor
      · intro reply
        obtain ready | ⟨attempts, last, failed⟩ :=
          (s.queued spec callback).connect_cases spec.name
        · rw [ready] at reply
          cases reply
        · rw [failed] at reply
          cases reply
      · rintro ⟨-, -, now⟩
        exact absurd now taken
  · rw [if_neg valid]
    constructor
    · intro reply
      cases reply
    · rintro ⟨-, now, -⟩
      exact absurd now valid

end Scheduler

/-! ## Records of a history -/

namespace History

/-- A task has ended since the session was last stopped, in a demand that found the session running
or not: it was live before and is not afterwards. -/
def EndedSince (s : Scheduler δ κ) (demands : List (Demand κ)) (running : Bool) (task : TaskId) :
    Prop :=
  ∃ earlier d, earlier ++ [d] <+: demands ∧
    (s.after earlier).scheduler.generation = (s.after demands).scheduler.generation ∧
    (s.after earlier).scheduler.session.running = running ∧
    (s.after earlier).scheduler.tracker.contains task = true ∧
    (s.after (earlier ++ [d])).scheduler.tracker.contains task = false

variable {s : Scheduler δ κ} {settings : SchedulerSettings} {session : Session δ}
  {demands : List (Demand κ)} {running : Bool} {task : TaskId}

/-- Within a session nothing ends without it: if the session does not run, it did not run when a
task ended since it was stopped. -/
theorem not_endedSince_of_stopped (stopped : (s.after demands).scheduler.session.running = false) :
    ¬ EndedSince s demands true task := by
  rintro ⟨earlier, d, ⟨later, rfl⟩, generation, runs, -, -⟩
  have follows := Scheduler.Follows.after s earlier ([d] ++ later)
  rw [← List.append_assoc] at follows
  rw [follows.running generation.symm runs] at stopped
  cases stopped

/-- A task that has ended without a session has ended by a status that came late. -/
theorem EndedSince.exists_status (h : EndedSince s demands false task) :
    ∃ status env, ⟨env, .status status⟩ ∈ demands ∧ status.task = task ∧
      status.state.isTerminal = true := by
  obtain ⟨earlier, ⟨env, operation⟩, part, -, stopped, live, ended⟩ := h
  rw [Scheduler.after_concat] at ended
  obtain ⟨status, rfl, same, terminal⟩ := Scheduler.exists_status_of_ends stopped live ended
  exact ⟨status, env, part.mem (by simp), same, terminal⟩

theorem EndedSince.concat (h : EndedSince s demands running task) (d : Demand κ)
    (same : (s.after (demands ++ [d])).scheduler.generation =
      (s.after demands).scheduler.generation) : EndedSince s (demands ++ [d]) running task := by
  obtain ⟨earlier, last, part, generation, ran, live, ended⟩ := h
  exact ⟨earlier, last, part.trans (List.prefix_append _ _), generation.trans same.symm, ran, live,
    ended⟩

/-- There is a record of a task exactly if the task has ended since the session was last stopped. -/
theorem mem_retired_iff :
    task ∈ ((Scheduler.new settings session).after demands).scheduler.tracker.retired.map (·.1) ↔
      ∃ running, EndedSince (.new settings session) demands running task := by
  constructor
  · induction demands using List.reverseRecOn with
    | nil => nofun
    | append_singleton demands d ih =>
        intro ended
        have wn := wellNamed_after settings session (demands ++ [d])
        rw [Scheduler.after_concat] at ended
        obtain ⟨generation, known⟩ := Scheduler.remembers_run d.env _ d.operation task ended
        obtain live | before := Tracker.isKnown_iff.1 known
        · -- The task was live before the last demand. It is on record now, so it is not live.
          refine ⟨_, demands, d, List.prefix_rfl, ?_, rfl, Tracker.contains_iff.2 live, ?_⟩
          · rw [Scheduler.after_concat]
            exact generation.symm
          · rw [Bool.eq_false_iff, Ne, Tracker.contains_iff]
            intro still
            obtain ⟨l, member, rfl⟩ := List.mem_map.1 still
            refine wn.not_mem_retired member ?_
            rw [Scheduler.after_concat]
            exact ended
        · obtain ⟨running, since⟩ := ih before
          refine ⟨running, since.concat d ?_⟩
          rw [Scheduler.after_concat]
          exact generation
  · rintro ⟨running, earlier, d, ⟨later, rfl⟩, generation, -, live, ended⟩
    -- The task goes over into the records in the demand, and stays there.
    have step := becomes_append settings session earlier [d]
    have rest := becomes_append settings session (earlier ++ [d]) later
    obtain ⟨grows, kept⟩ := step.launches (wellNamed_after settings session earlier)
    obtain ⟨further, stays⟩ := rest.retired
    have same : ((Scheduler.new settings session).after (earlier ++ [d])).ledger.generation =
        ((Scheduler.new settings session).after earlier).ledger.generation := by
      have whole : ((Scheduler.new settings session).after earlier).ledger.generation =
          ((Scheduler.new settings session).after (earlier ++ [d] ++ later)).ledger.generation :=
        generation
      omega
    obtain ⟨-, -, tasks, -⟩ := kept same
    have here := tasks task (List.mem_append_left _ (Tracker.contains_iff.1 live))
    obtain live | recorded := List.mem_append.1 here
    · rw [Tracker.contains_iff.2 live] at ended
      cases ended
    · exact (stays (generation.symm.trans same.symm)).mem recorded

/-- Records are those of tasks that have ended since the session was last stopped. If no session
runs, they are all of tasks that ended without one, which takes a status that came late. A worker is
refused as one that is there already if its cpus are in order and it waits, is live, has ended in
the session that runs now, or has ended after the last stop but before that session was started. -/
theorem duplicate_worker_iff (settings : SchedulerSettings) (session : Session δ)
    (demands : List (Demand κ)) (env : Surroundings) (spec : WorkerSpec Float) (callback : κ)
    (worker : TaskId) :
    let new := Scheduler.new settings session
    let s := (new.after demands).scheduler
    (∀ task, task ∈ s.tracker.retired.map (·.1) ↔
      EndedSince new demands true task ∨ EndedSince new demands false task) ∧
    (s.session.running = false → ∀ task, ¬ EndedSince new demands true task) ∧
    (∀ task, EndedSince new demands false task → ∃ status env,
      ⟨env, .status status⟩ ∈ demands ∧ status.task = task ∧ status.state.isTerminal = true) ∧
    ((s.run env (.request spec callback)).reply = some (.refused (.duplicateWorker worker)) ↔
      worker = spec.name ∧ (0.0 ≤ spec.cpus ∧ spec.cpus.isFinite = true) ∧
        (s.requests.contains worker = true ∨ s.tracker.contains worker = true ∨
          EndedSince new demands true worker ∨ EndedSince new demands false worker)) := by
  intro new s
  have recorded (task : TaskId) : task ∈ s.tracker.retired.map (·.1) ↔
      EndedSince new demands true task ∨ EndedSince new demands false task := by
    rw [mem_retired_iff, Bool.exists_bool, or_comm]
  have taken : s.isTaken worker = true ↔
      s.requests.contains worker = true ∨ s.tracker.contains worker = true ∨
        EndedSince new demands true worker ∨ EndedSince new demands false worker := by
    rw [← recorded, Scheduler.isTaken, Bool.or_eq_true, Tracker.isKnown_iff,
      ← Tracker.contains_iff, or_comm]
  refine ⟨recorded, fun stopped _ => not_endedSince_of_stopped stopped,
    fun _ => EndedSince.exists_status, ?_⟩
  rw [s.reply_request_duplicateWorker_iff env spec callback worker, ← taken]
  constructor
  · rintro ⟨rfl, valid, known⟩
    exact ⟨rfl, valid, known⟩
  · rintro ⟨rfl, valid, known⟩
    exact ⟨rfl, valid, known⟩

end History

namespace Plain

/-- A task is live when the session stops, and a status that ends it comes after that. -/
def overdue : List (Demand Unit) :=
  [⟨moment, .request (worker "w") ()⟩, ⟨moment, .offers [offer "o"]⟩, ⟨moment, .stop⟩,
    ⟨moment, .status ⟨⟨"w"⟩, .finished, none⟩⟩]

/-- The name of the task stays taken, though no session runs in which the task could have ended. -/
theorem duplicate_worker_iff_overdue :
    (((scheduler.after overdue).scheduler.run moment (.request (worker "w") ())).reply =
        some (.refused (.duplicateWorker ⟨"w"⟩))) ∧
      (scheduler.after overdue).scheduler.session.running = false ∧
      (scheduler.after overdue).scheduler.requests.contains ⟨"w"⟩ = false ∧
      (scheduler.after overdue).scheduler.tracker.contains ⟨"w"⟩ = false ∧
      ¬ History.EndedSince scheduler overdue true ⟨"w"⟩ := by
  obtain ⟨records, never, -, refused⟩ :=
    History.duplicate_worker_iff {} session overdue moment (worker "w") () ⟨"w"⟩
  have stopped : (scheduler.after overdue).scheduler.session.running = false := by decide +kernel
  have recorded : ⟨"w"⟩ ∈ (scheduler.after overdue).scheduler.tracker.retired.map (·.1) := by
    decide +kernel
  have valid : 0.0 ≤ (worker "w").cpus ∧ (worker "w").cpus.isFinite = true := by decide +kernel
  refine ⟨refused.2 ⟨rfl, valid, ?_⟩, stopped, by decide +kernel, by decide +kernel,
    never stopped _⟩
  exact .inr (.inr ((records _).1 recorded))

end Plain

end OfferDispatch
