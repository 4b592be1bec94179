import OfferDispatch.Scheduler.Placement
import OfferDispatch.Supervision

/-!
# Actions

What the scheduler does happens in actions, each of which is done at once. An action changes the
scheduler and may leave further actions to be done by the same caller: a list of them is an agenda.
Between two actions of one caller, those of others may be done.

Two kinds of actions are not for the scheduler but for the caller: to tell a host something, and to
return. A host that is told something may call on the scheduler again before the caller goes on.
-/

namespace OfferDispatch

inductive Reply
  | done
  | refused (error : SchedulerError)
  | outcome (o : StatusOutcome)
  | decided (d : Decision)
  deriving Repr

/-- Something that is done at once. -/
inductive Action (κ : Type)
  /-- Takes in a request, unless its worker is invalid or taken. -/
  | enlist (request : Request κ)
  /-- Has the session run, or asks for offers if it does, on behalf of a request. -/
  | connect (worker : TaskId)
  /-- Takes back a request because the session could not be started. -/
  | withdraw (worker : TaskId) (error : SchedulerError)
  /-- Cancels a worker, whatever its state. -/
  | cancel (worker : TaskId)
  | kill (worker : TaskId)
  | startLoop
  /-- Buffers an offer, or declines it if there is no room. -/
  | accept (offer : Offer Float)
  /-- Takes the buffered offers to place them. -/
  | drain
  | place (batch : List (Offer Float))
  | decline (offer : OfferId) (refuse : Duration)
  | rescind (offer : OfferId)
  | apply (status : TaskStatus)
  | assign (id : FrameworkId)
  | stop
  /-- Supervises, on the way to something else. -/
  | supervise
  /-- Supervises, and returns what was decided. -/
  | inspect
  /-- Takes what supervision has left to be told. -/
  | release
  /-- A processing loop takes the buffered offers, or ends. -/
  | turn (generation : Nat)
  /-- A processing loop ends if its session has. -/
  | review (generation : Nat)
  | tell (notice : Notice κ)
  | answer (reply : Reply)
  deriving Inhabited

namespace Action

variable {κ : Type}

/-- How many further actions can follow one from another, at most. -/
def height : Action κ → Nat
  | enlist _ | cancel _ => 3
  | connect _ | kill _ | apply _ | drain => 2
  | withdraw .. | place _ | inspect | release | turn _ => 1
  | _ => 0

end Action

namespace Scheduler

variable {δ κ : Type}

/-- What is done after a worker may have ended. -/
def afterEnd (s : Scheduler δ κ) : List (Action κ) :=
  if s.settings.onDemand then [.supervise, .release] else [.release]

theorem height_afterEnd {s : Scheduler δ κ} {a : Action κ} (h : a ∈ s.afterEnd) : a.height ≤ 1 := by
  unfold afterEnd at h
  split at h <;> simp only [List.mem_cons, List.not_mem_nil, or_false] at h
  · rcases h with rfl | rfl <;> simp [Action.height]
  · subst h
    simp [Action.height]

variable [ClusterDriver δ]

/-- Gives up live tasks if there are no nodes, and stops the session if nothing is left. -/
def settle (nodes : Nat) (s : Scheduler δ κ) : Settled × Scheduler δ κ :=
  let cleared := if nodes = 0 then s.tracker.clear else s.tracker
  let notices := if nodes = 0 then s.tracker.clearNotices else []
  let stopped := s.pending == 0 && cleared.size == 0 && nodes == 0
  let kept := { s with tracker := cleared, deferred := s.deferred ++ notices }
  (⟨s.pending, cleared.size, nodes, notices.length, stopped⟩, if stopped then kept.stop else kept)

instance : Supervised (Scheduler δ κ) where
  isRunning s := s.session.running
  settle := settle

def enlist (s : Scheduler δ κ) (r : Request κ) : List (Action κ) × Scheduler δ κ :=
  if 0.0 ≤ r.spec.cpus ∧ r.spec.cpus.isFinite then
    if s.isTaken r.name then ([.answer (.refused (.duplicateWorker r.name))], s)
    else
      let r := { r with spec := constrain s.settings r.spec }
      ([.connect r.name], { s with requests := s.requests.push r })
  else ([.answer (.refused (.invalidSpec r.name (.cpus r.spec.cpus)))], s)

/-- Has the session run on behalf of a request. -/
def connect (s : Scheduler δ κ) (worker : TaskId) : List (Action κ) × Scheduler δ κ :=
  if s.session.running then ([.answer .done], { s with session := s.session.revive })
  else
    let started := s.session.start
    let s := { s with session := started.2 }
    match started.1 with
    | .ok () => ([.answer .done], s)
    | .error e => ([.withdraw worker e], s)

def cancel (s : Scheduler δ κ) (worker : TaskId) : List (Action κ) × Scheduler δ κ :=
  if s.tracker.contains worker then ([.kill worker], s)
  else match s.requests.remove? worker with
    | some (r, rest) =>
      (.tell r.failed :: s.afterEnd ++ [.answer .done], { s with requests := rest })
    | none => (s.afterEnd ++ [.answer .done], s)

def kill (s : Scheduler δ κ) (worker : TaskId) : List (Action κ) × Scheduler δ κ :=
  let called := s.session.call (.kill worker)
  let reply := match called.1 with
    | .ok () => Reply.done
    | .error e => .refused (.driver e)
  (s.afterEnd ++ [.answer reply], { s with session := called.2 })

/-- Buffers an offer, or declines it. -/
def accept (s : Scheduler δ κ) (o : Offer Float) : Scheduler δ κ :=
  let enqueued := s.buffer.enqueue o
  let s := { s with buffer := enqueued.2 }
  if enqueued.1 then s
  else { s with session := (s.session.call (.decline o.id shortDecline)).2 }

/-- What is left to do when a batch has been placed. -/
def placed (p : Placement δ κ) : List (Action κ) × Scheduler δ κ :=
  (p.declines.map (fun d => .decline d.1 d.2) ++ p.notices.map .tell, p.scheduler)

omit [ClusterDriver δ] in
theorem height_placed {p : Placement δ κ} {a : Action κ} (h : a ∈ (placed p).1) : a.height = 0 := by
  simp only [placed, List.mem_append, List.mem_map] at h
  rcases h with ⟨_, _, rfl⟩ | ⟨_, _, rfl⟩ <;> rfl

/-- Applies a status. One for an unknown task is an error while the session runs; afterwards it may
be for a task whose end has been forgotten, and is rejected. -/
def apply (s : Scheduler δ κ) (status : TaskStatus) : List (Action κ) × Scheduler δ κ :=
  match s.tracker.onStatus? status with
  | some effect =>
    (effect.notices.map .tell ++ s.afterEnd ++ [.answer (.outcome effect.outcome)],
      { s with tracker := effect.tracker })
  | none =>
    if s.session.running then ([.answer (.refused (.unknownTask status.task))], s)
    else (s.afterEnd ++ [.answer (.outcome .rejected)], s)

/-- A processing loop takes the buffered offers and places them. It ends if the session does not
run, and if it has nothing to do and the session is another one. -/
def turn (now : Instant) (s : Scheduler δ κ) (generation : Nat) :
    List (Action κ) × Scheduler δ κ :=
  if s.session.running then
    let drained := s.buffer.drain
    if drained.1.isEmpty then ([.review generation], s)
    else
      let after := placed ({ s with buffer := drained.2 }.place now drained.1)
      (after.1 ++ [.review generation], after.2)
  else ([], s.endLoop generation)

/-- Does an action, and says what is left to do. -/
def perform (env : Surroundings) (s : Scheduler δ κ) : Action κ → List (Action κ) × Scheduler δ κ
  | .enlist r => s.enlist r
  | .connect worker => s.connect worker
  | .withdraw worker e => ([.answer (.refused e)], { s with requests := s.requests.erase worker })
  | .cancel worker => s.cancel worker
  | .kill worker => s.kill worker
  | .startLoop => ([], s.ensureLoop)
  | .accept o => ([], s.accept o)
  | .drain => ([.place s.buffer.drain.1], { s with buffer := s.buffer.drain.2 })
  | .place batch => if batch.isEmpty then ([], s) else placed (s.place env.now batch)
  | .decline o refuse => ([], { s with session := (s.session.call (.decline o refuse)).2 })
  | .rescind o => ([], { s with buffer := (s.buffer.remove o).2 })
  | .apply status => s.apply status
  | .assign id => ([], { s with session := s.session.assign id })
  | .stop => ([], s.stop)
  | .supervise => ([], (OfferDispatch.supervise env.nodes s).2)
  | .inspect =>
    let decided := OfferDispatch.supervise env.nodes s
    ([.answer (.decided decided.1)], decided.2)
  | .release => (s.deferred.map .tell, { s with deferred := [] })
  | .turn generation => s.turn env.now generation
  | .review generation => ([], if s.isCurrent generation then s else s.endLoop generation)
  | .tell _ => ([], s)
  | .answer _ => ([], s)

/-- What follows from an action is lower, so that every agenda comes to an end. -/
theorem height_perform {env : Surroundings} {s : Scheduler δ κ} {a next : Action κ}
    (h : next ∈ (s.perform env a).1) : next.height < a.height := by
  have low {a : Action κ} (h : a ∈ s.afterEnd) : a.height < 2 :=
    Nat.lt_succ_of_le (height_afterEnd h)
  cases a with
  | enlist r =>
    simp only [perform, enlist] at h
    split at h
    · split at h <;> simp_all [Action.height]
    · simp_all [Action.height]
  | connect w =>
    simp only [perform, connect] at h
    split at h
    · simp_all [Action.height]
    · split at h <;> simp_all [Action.height]
  | withdraw w e => simp_all [perform, Action.height]
  | cancel w =>
    simp only [perform, cancel] at h
    split at h
    · simp_all [Action.height]
    · split at h
      · simp only [List.cons_append, List.mem_cons, List.mem_append, List.not_mem_nil,
          or_false] at h
        rcases h with rfl | h | rfl
        · simp [Action.height]
        · exact Nat.lt_succ_of_lt (low h)
        · simp [Action.height]
      · simp only [List.mem_append, List.mem_cons, List.not_mem_nil, or_false] at h
        rcases h with h | rfl
        · exact Nat.lt_succ_of_lt (low h)
        · simp [Action.height]
  | kill w =>
    simp only [perform, kill, List.mem_append, List.mem_cons, List.not_mem_nil, or_false] at h
    rcases h with h | rfl
    · exact low h
    · simp [Action.height]
  | apply st =>
    simp only [perform, apply] at h
    split at h
    · simp only [List.mem_append, List.mem_map, List.mem_cons, List.not_mem_nil, or_false] at h
      rcases h with (⟨_, _, rfl⟩ | h) | rfl
      · simp [Action.height]
      · exact low h
      · simp [Action.height]
    · split at h
      · simp_all [Action.height]
      · simp only [List.mem_append, List.mem_cons, List.not_mem_nil, or_false] at h
        rcases h with h | rfl
        · exact low h
        · simp [Action.height]
  | place batch =>
    simp only [perform] at h
    split at h
    · simp at h
    · rw [height_placed h]
      simp [Action.height]
  | turn g =>
    simp only [perform, turn] at h
    split at h
    · split at h
      · simp_all [Action.height]
      · simp only [List.mem_append, List.mem_cons, List.not_mem_nil, or_false] at h
        rcases h with h | rfl
        · rw [height_placed h]
          simp [Action.height]
        · simp [Action.height]
    · simp at h
  | inspect => simp_all [perform, Action.height]
  | release =>
    simp only [perform, List.mem_map] at h
    obtain ⟨_, _, rfl⟩ := h
    simp [Action.height]
  | drain => simp_all [perform, Action.height]
  | _ => simp_all [perform]
end Scheduler

end OfferDispatch
