import OfferDispatch.Proofs.FirstFit
import OfferDispatch.Proofs.SessionRecords
import OfferDispatch.Proofs.Settling
import OfferDispatch.Proofs.StoppedSession

/-!
# Sessions without anything to do

On demand, a session is to run only as long as there is something to do. Whatever may end the last
worker therefore has the scheduler supervised afterwards: cancelling a worker, and a status. But a
request also ends when its launch fails, and whoever places offers does not look whether anything is
left. If all requests that wait go that way and no task is live, then the session runs on without
anything to do, until something else has the scheduler supervised.

What is shown is that this is the only way to an idle session, and how long it stays idle.
-/

namespace OfferDispatch

variable {δ κ : Type}

/-! ## What a batch leaves to be done -/

/-- From `p` to `q`, launches have succeeded and left live tasks, or none has and the tracker is as
it was. -/
def Placement.Tracks (p q : Placement δ κ) : Prop :=
  q.scheduler.tracker = p.scheduler.tracker ∧ q.scheduler.launched = p.scheduler.launched ∨
    q.scheduler.tracker.live ≠ [] ∧
      p.scheduler.launched.length < q.scheduler.launched.length

namespace Placement.Tracks

theorem refl (p : Placement δ κ) : p.Tracks p := .inl ⟨rfl, rfl⟩

theorem trans {p q r : Placement δ κ} (first : p.Tracks q) (second : q.Tracks r) : p.Tracks r := by
  obtain ⟨tracker, launched⟩ | ⟨live, more⟩ := second
  · obtain ⟨before, none⟩ | ⟨live, more⟩ := first
    · exact .inl ⟨tracker.trans before, launched.trans none⟩
    · rw [← tracker] at live
      rw [← launched] at more
      exact .inr ⟨live, more⟩
  · obtain ⟨-, none⟩ | ⟨-, earlier⟩ := first
    · rw [none] at more
      exact .inr ⟨live, more⟩
    · exact .inr ⟨live, Nat.lt_trans earlier more⟩

theorem turn [ClusterDriver δ] (now : Instant) (t : Turn δ κ) : t.met.Tracks (t.after now) := by
  obtain same | ⟨l, tracked, launched⟩ := t.tracker_after now
  · exact .inl same
  · right
    rw [tracked, launched]
    exact ⟨List.append_ne_nil_of_right_ne_nil _ (List.cons_ne_nil _ _), by simp⟩

end Placement.Tracks

variable [ClusterDriver δ]

namespace Scheduler

theorem tracks_place (now : Instant) (s : Scheduler δ κ) (batch : List (Offer Float)) :
    Placement.Tracks ⟨s, [], []⟩ (s.place now batch) :=
  Placement.rel_foldl_offer (R := Placement.Tracks) .refl .trans (.turn now) _ ⟨s, [], []⟩

/-- After a batch no task is live exactly if none was and no launch has succeeded. -/
theorem active_place_eq_zero_iff (now : Instant) (s : Scheduler δ κ)
    (batch : List (Offer Float)) :
    (s.place now batch).scheduler.active = 0 ↔
      s.active = 0 ∧ (s.place now batch).scheduler.launched = s.launched := by
  simp only [active, Tracker.size, List.length_eq_zero_iff]
  obtain ⟨tracker, launched⟩ | ⟨live, more⟩ := s.tracks_place now batch
  · rw [tracker]
    exact (and_iff_left launched).symm
  · refine iff_of_false live ?_
    rintro ⟨-, none⟩
    rw [none] at more
    exact Nat.lt_irrefl _ more

/-- After a batch nobody waits exactly if all who waited were tried. -/
theorem pending_place_eq_zero_iff (now : Instant) (s : Scheduler δ κ)
    (batch : List (Offer Float)) :
    (s.place now batch).scheduler.pending = 0 ↔
      ((s.turns now batch).filterMap (·.tried? now)).Perm s.requests.waiting := by
  have parts : ((s.turns now batch).filterMap (·.tried? now) ++
      (s.place now batch).waiting).Perm s.requests.waiting :=
    Placement.perm_tried_waiting now _ ⟨s, [], []⟩
  have nobody : (s.place now batch).scheduler.pending = 0 ↔ (s.place now batch).waiting = [] :=
    List.length_eq_zero_iff
  rw [nobody]
  constructor
  · intro none
    rwa [none, List.append_nil] at parts
  · intro all
    have counted := parts.length_eq
    rw [List.length_append, all.length_eq] at counted
    exact List.eq_nil_of_length_eq_zero (by omega)

/-- While nobody waits, a batch launches nothing. -/
theorem launched_place_of_pending {s : Scheduler δ κ} (nobody : s.pending = 0) (now : Instant)
    (batch : List (Offer Float)) : (s.place now batch).scheduler.launched = s.launched := by
  have none : ∀ o ∈ batch, ¬ s.Fits now o := by
    rintro o - ⟨-, r, waits, -⟩
    rw [List.length_eq_zero_iff.1 nobody] at waits
    cases waits
  exact launched_eq_of_launches ((place_keeps_iff now s batch).2 none).2

end Scheduler

/-! ## Dealing with offers -/

/-- Is the action one of those that deal with offers? Neither they nor what follows from them start
or stop the session. -/
def Action.isPlacing : Action κ → Bool
  | .drain | .place _ | .turn _ => true
  | action => action.isPlain

/-- Does the operation place offers, if there are any? -/
def Operation.isPlacing : Operation κ → Bool
  | .offers _ | .process _ | .turn _ => true
  | _ => false

omit [ClusterDriver δ] in
theorem Action.isPlacing_of_isPlain {action : Action κ} (plain : action.isPlain = true) :
    action.isPlacing = true := by
  cases action <;> first | rfl | cases plain

namespace Scheduler

theorem running_perform_of_isPlacing (env : Surroundings) (s : Scheduler δ κ) {action : Action κ}
    (placing : action.isPlacing = true) :
    (s.perform env action).2.session.running = s.session.running := by
  cases action with
  | startLoop =>
      simp only [perform, ensureLoop]
      split <;> rfl
  | accept o =>
      simp only [perform, accept]
      split <;> rfl
  | review generation =>
      simp only [perform]
      split <;> rfl
  | place batch =>
      simp only [perform]
      split
      · rfl
      · exact (placed_place env.now s batch).running_eq
  | turn generation =>
      have placed := placed_place env.now { s with buffer := s.buffer.drain.2 } s.buffer.drain.1
      simp only [perform, turn]
      split
      · split
        · rfl
        · exact placed.running_eq
      · rfl
  | drain | decline | rescind | assign | tell | answer => rfl
  | _ => cases placing

theorem isPlacing_of_mem_perform (env : Surroundings) (s : Scheduler δ κ) {action next : Action κ}
    (placing : action.isPlacing = true) (h : next ∈ (s.perform env action).1) :
    next.isPlacing = true := by
  cases action with
  | place batch =>
      simp only [perform] at h
      split at h
      · cases h
      · exact Action.isPlacing_of_isPlain (isPlain_of_mem_placed _ next h)
  | turn generation =>
      exact Action.isPlacing_of_isPlain (isPlain_of_mem_turn env.now s generation next h)
  | drain =>
      obtain rfl := List.mem_singleton.1 h
      rfl
  | startLoop | accept | decline | rescind | assign | review | tell | answer => cases h
  | _ => cases placing

omit [ClusterDriver δ] in
theorem isPlacing_of_mem_agenda (settings : SchedulerSettings) {o : Operation κ}
    (placing : o.isPlacing = true) : ∀ action ∈ o.agenda settings, action.isPlacing = true := by
  cases o with
  | offers delivered =>
      have accepted : ∀ action ∈ delivered.map Action.accept,
          (action : Action κ).isPlacing = true := List.forall_mem_map.2 fun _ _ => rfl
      rw [Operation.agenda]
      refine List.forall_mem_append.2 ⟨List.forall_mem_append.2
        ⟨List.forall_mem_append.2 ⟨?_, accepted⟩, ?_⟩, List.forall_mem_singleton.2 rfl⟩
      · split <;> simp [Action.isPlacing, Action.isPlain]
      · split <;> simp [Action.isPlacing]
  | process | turn => simp [Operation.agenda, Action.isPlacing, Action.isPlain]
  | _ => cases placing

/-- Placing offers neither starts nor stops the session. -/
theorem running_run_of_isPlacing (env : Surroundings) (s : Scheduler δ κ) {o : Operation κ}
    (placing : o.isPlacing = true) :
    (s.run env o).scheduler.session.running = s.session.running :=
  run_preserves_of_allowed (P := fun t => t.session.running = s.session.running)
    (fun t _ ok same => (running_perform_of_isPlacing env t ok).trans same)
    (fun t _ ok _ => isPlacing_of_mem_perform env t ok)
    (isPlacing_of_mem_agenda s.settings placing) rfl

/-- The scheduler as it is when an operation comes to place offers, and these offers. -/
def staged (s : Scheduler δ κ) : Operation κ → Scheduler δ κ × List (Offer Float)
  | .process batch => (s, batch)
  | .offers delivered =>
    if s.settings.multiThreaded then (s, [])
    else (s.received delivered, (s.acceptAll delivered).buffer.offers)
  | .turn _ =>
    if s.session.running then ({ s with buffer := s.buffer.drain.2 }, s.buffer.offers)
    else (s, [])
  | _ => (s, [])

def turnsOf (now : Instant) (s : Scheduler δ κ) (o : Operation κ) : List (Turn δ κ) :=
  (s.staged o).1.turns now (s.staged o).2

theorem quiet_staged (s : Scheduler δ κ) (o : Operation κ) : Quiet s (s.staged o).1 := by
  cases o with
  | offers delivered =>
      rw [staged]
      split
      · exact .refl s
      · exact (s.quiet_acceptAll delivered).trans ⟨rfl, rfl, rfl, rfl, rfl⟩
  | turn generation =>
      rw [staged]
      split
      · exact ⟨rfl, rfl, rfl, rfl, rfl⟩
      · exact .refl s
  | _ => exact .refl s

/-- All that such an operation does to requests and tasks is to place its offers. -/
theorem quiet_run_of_isPlacing (env : Surroundings) (s : Scheduler δ κ) {o : Operation κ}
    (placing : o.isPlacing = true) :
    Quiet ((s.staged o).1.place env.now (s.staged o).2).scheduler
      (s.run env o).scheduler := by
  cases o with
  | process batch => exact quiet_run_process env s batch
  | offers delivered =>
      rw [staged]
      split
      · next multi =>
          exact (quiet_place_nil env.now s).symm.trans
            (quiet_run_offers_of_multiThreaded env s delivered multi)
      · next single => exact quiet_run_offers env s delivered (Bool.eq_false_iff.2 single)
  | turn generation =>
      have quiet := quiet_run_turn env s generation
      rw [staged]
      split
      · next runs =>
          rw [if_pos runs] at quiet
          exact quiet
      · next stopped =>
          rw [if_neg stopped] at quiet
          exact (quiet_place_nil env.now s).symm.trans quiet
  | _ => cases placing

/-! ## Idle sessions -/

omit [ClusterDriver δ] in
/-- The session runs though nobody waits and no task is live. -/
structure Idle (s : Scheduler δ κ) : Prop where
  running : s.session.running = true
  pending : s.pending = 0
  active : s.active = 0

omit [ClusterDriver δ] in
theorem idle_congr {s t : Scheduler δ κ} (running : t.session.running = s.session.running)
    (requests : t.requests = s.requests) (tracker : t.tracker = s.tracker) : t.Idle ↔ s.Idle := by
  have pending : t.pending = s.pending := congrArg RequestQueue.size requests
  have active : t.active = s.active := congrArg Tracker.size tracker
  constructor
  · rintro ⟨runs, nobody, none⟩
    exact ⟨running.symm.trans runs, pending.symm.trans nobody, active.symm.trans none⟩
  · rintro ⟨runs, nobody, none⟩
    exact ⟨running.trans runs, pending.trans nobody, active.trans none⟩

/-- An operation fails all that is left to do. No task is live, everybody who waits is tried in the
turns of the offers that the operation places, and no launch succeeds. -/
structure Exhausts (env : Surroundings) (s : Scheduler δ κ) (o : Operation κ) : Prop where
  placing : o.isPlacing = true
  running : s.session.running = true
  pending : s.pending ≠ 0
  active : s.active = 0
  tried : ((s.turnsOf env.now o).filterMap (·.tried? env.now)).Perm s.requests.waiting
  failed : (s.run env o).scheduler.launched = s.launched

/-- An operation does not look whether there is anything to do, and it brings nothing to do. -/
def Overlooks (env : Surroundings) (s : Scheduler δ κ) : Operation κ → Prop
  | .offers _ | .process _ | .turn _ | .rescind _ | .registered _ | .remark _ => True
  | .request spec callback =>
    ∃ e, (s.run env (.request spec callback)).reply = some (.refused e)
  | .status status => ∃ e, (s.run env (.status status)).reply = some (.refused e)
  | .cancel _ | .error _ | .stop | .supervise => False

/-- Placing offers leaves the session idle exactly if it was, or if the last that was left to do has
failed. -/
theorem idle_run_of_isPlacing_iff (env : Surroundings) (s : Scheduler δ κ) {o : Operation κ}
    (placing : o.isPlacing = true) :
    (s.run env o).scheduler.Idle ↔ s.Idle ∨ s.Exhausts env o := by
  have staged := s.quiet_staged o
  have quiet := quiet_run_of_isPlacing env s placing
  have running := running_run_of_isPlacing env s placing
  have pending : (s.run env o).scheduler.pending = 0 ↔
      ((s.turnsOf env.now o).filterMap (·.tried? env.now)).Perm s.requests.waiting := by
    rw [Scheduler.pending, quiet.requests, ← staged.requests]
    exact pending_place_eq_zero_iff env.now _ _
  have before : s.active = 0 ↔ (s.staged o).1.active = 0 := by
    rw [active, active, staged.tracker]
  have launched : (s.run env o).scheduler.launched = s.launched ↔
      ((s.staged o).1.place env.now (s.staged o).2).scheduler.launched =
        (s.staged o).1.launched := by
    rw [launched_eq_of_launches quiet.launches, launched_eq_of_launches staged.launches]
  have active : (s.run env o).scheduler.active = 0 ↔
      s.active = 0 ∧ (s.run env o).scheduler.launched = s.launched := by
    rw [before, launched, ← active_place_eq_zero_iff, Scheduler.active, quiet.tracker]
    rfl
  constructor
  · rintro ⟨runs, done, idle⟩
    obtain ⟨none, failed⟩ := active.1 idle
    by_cases nobody : s.pending = 0
    · exact .inl ⟨running ▸ runs, nobody, none⟩
    · exact .inr ⟨placing, running ▸ runs, nobody, none, pending.1 done, failed⟩
  · rintro (⟨runs, nobody, none⟩ | ⟨-, runs, -, none, tried, failed⟩)
    · -- Nobody waits, so that nobody can be tried.
      have still : (s.staged o).1.pending = 0 :=
        (congrArg RequestQueue.size staged.requests).trans nobody
      have same := launched.2 (launched_place_of_pending still env.now _)
      have gone : (s.run env o).scheduler.pending = 0 := by
        have fewer := (waiting_place_sublist env.now (s.staged o).1 (s.staged o).2).length_le
        rw [Scheduler.pending, quiet.requests]
        exact Nat.le_zero.1 (still ▸ fewer)
      exact ⟨running.trans runs, gone, active.2 ⟨none, same⟩⟩
    · exact ⟨running.trans runs, pending.2 tried, active.2 ⟨none, failed⟩⟩

/-- Without nodes, supervision leaves no session idle. -/
theorem not_idle_supervise (s : Scheduler δ κ) :
    ¬ (OfferDispatch.supervise 0 s).2.Idle := by
  rintro ⟨runs, pending, -⟩
  by_cases running : s.session.running = true
  · have stops := (settles_supervise running 0).stopped_iff.2
    have nobody : s.pending = 0 := by
      rw [Scheduler.pending, requests_supervise] at pending
      exact pending
    rw [stops ⟨nobody, rfl⟩] at runs
    cases runs
  · rw [supervise_of_stopped (Bool.eq_false_iff.2 running)] at runs
    exact running runs

theorem not_idle_wrapUp {env : Surroundings} {s : Scheduler δ κ}
    (onDemand : s.settings.onDemand = true) (none : env.nodes = 0) : ¬ (s.wrapUp env).Idle := by
  have supervised : (s.wrapUp env).Idle ↔ (OfferDispatch.supervise 0 s).2.Idle := by
    rw [wrapUp, if_pos onDemand, none]
    exact idle_congr rfl rfl rfl
  rw [supervised]
  exact not_idle_supervise s

/-- If a request is refused and the session runs afterwards, it has run before. -/
theorem running_of_refused {env : Surroundings} {s : Scheduler δ κ} {spec : WorkerSpec Float}
    {callback : κ} {e : SchedulerError}
    (refused : (s.run env (.request spec callback)).reply = some (.refused e))
    (runs : (s.run env (.request spec callback)).scheduler.session.running = true) :
    s.session.running = true := by
  rw [run_request] at refused runs
  split at refused
  · next valid =>
      rw [if_pos valid] at runs
      split at refused
      · next taken =>
          rw [if_pos taken] at runs
          exact runs
      · next free =>
          -- A session that does not run is started, and it has failed to start.
          rw [if_neg free] at runs
          by_contra stopped
          have halted : ¬ (s.queued spec callback).session.running = true := stopped
          rw [connect, if_neg halted, Session.start, if_neg halted] at refused runs
          cases registered : (Session.register (s.queued spec callback).session.registration
              ((s.queued spec callback).session.maxAttempts - 1) 0
              (s.queued spec callback).session.link).1 with
          | ok =>
              simp only [registered] at refused
              cases refused
          | error last =>
              simp only [registered] at runs
              exact stopped runs
  · next invalid =>
      rw [if_neg invalid] at runs
      exact runs

/-- After an operation the session is idle exactly if it was idle before and the operation has
overlooked it, or if the operation has failed the last that was left to do. -/
theorem idle_run_iff {env : Surroundings} {s : Scheduler δ κ}
    (onDemand : s.settings.onDemand = true) (none : env.nodes = 0) (o : Operation κ) :
    (s.run env o).scheduler.Idle ↔ s.Idle ∧ s.Overlooks env o ∨ s.Exhausts env o := by
  have placed (placing : o.isPlacing = true) (overlooks : s.Overlooks env o) :
      (s.run env o).scheduler.Idle ↔ s.Idle ∧ s.Overlooks env o ∨ s.Exhausts env o := by
    rw [idle_run_of_isPlacing_iff env s placing, and_iff_left overlooks]
  have other (placing : o.isPlacing = false)
      (h : (s.run env o).scheduler.Idle ↔ s.Idle ∧ s.Overlooks env o) :
      (s.run env o).scheduler.Idle ↔ s.Idle ∧ s.Overlooks env o ∨ s.Exhausts env o := by
    have not : ¬ s.Exhausts env o := by
      intro exhausts
      rw [exhausts.placing] at placing
      cases placing
    rw [h, or_iff_left not]
  have never (h : ¬ (s.run env o).scheduler.Idle) (looks : ¬ s.Overlooks env o) :
      (s.run env o).scheduler.Idle ↔ s.Idle ∧ s.Overlooks env o :=
    iff_of_false h fun overlooked => looks overlooked.2
  cases o with
  | offers | process | turn => exact placed rfl trivial
  | rescind | registered | remark =>
      refine other rfl ?_
      rw [Overlooks, and_true]
      exact idle_congr rfl rfl rfl
  | error | stop =>
      refine other rfl (never ?_ id)
      intro idle
      have runs : s.session.stop.running = true := idle.running
      rw [Session.stop] at runs
      split at runs
      · cases runs
      · contradiction
  | supervise =>
      refine other rfl (never ?_ id)
      have decided : (s.run env .supervise).scheduler = (OfferDispatch.supervise env.nodes s).2 :=
        rfl
      rw [decided, none]
      exact not_idle_supervise s
  | cancel worker =>
      refine other rfl (never ?_ id)
      rw [run_cancel]
      split
      · exact not_idle_wrapUp onDemand none
      · split <;> exact not_idle_wrapUp onDemand none
  | status status =>
      refine other rfl ?_
      have reply := reply_status env s status
      rw [Overlooks, reply, run_status]
      cases applied : s.tracker.onStatus? status with
      | some effect =>
          refine iff_of_false (not_idle_wrapUp onDemand none) ?_
          rintro ⟨-, e, refused⟩
          cases refused
      | none =>
          by_cases runs : s.session.running = true
          · simp only [if_pos runs]
            exact (and_iff_left ⟨_, rfl⟩).symm
          · simp only [if_neg runs]
            refine iff_of_false (not_idle_wrapUp onDemand none) ?_
            rintro ⟨-, e, refused⟩
            cases refused
  | request spec callback =>
      refine other rfl ?_
      rw [Overlooks]
      obtain ⟨-, ⟨e, refused, quiet⟩ | ⟨r, -, -, accepted, quiet⟩⟩ :=
        s.quiet_run_request env spec callback
      · have running : (s.run env (.request spec callback)).scheduler.session.running =
            s.session.running := by
          rw [Bool.eq_iff_iff]
          exact ⟨running_of_refused refused,
            (Follows.run env s (.request spec callback)).running quiet.generation⟩
        rw [idle_congr running quiet.requests quiet.tracker]
        exact (and_iff_left ⟨e, refused⟩).symm
      · refine iff_of_false ?_ ?_
        · intro idle
          have pending := idle.pending
          rw [Scheduler.pending, quiet.requests] at pending
          simp [RequestQueue.size, RequestQueue.push] at pending
        · rintro ⟨-, e, refused⟩
          rw [accepted] at refused
          cases refused

end Scheduler

namespace History

/-- The last that was left to do has failed in a demand, and whatever was asked since has overlooked
that there is nothing to do. -/
def LeftIdle (s : Scheduler δ κ) (demands : List (Demand κ)) : Prop :=
  ∃ before d later, demands = before ++ d :: later ∧
    (s.after before).scheduler.Exhausts d.env d.operation ∧
    ∀ part e, part ++ [e] <+: later →
      (s.after (before ++ d :: part)).scheduler.Overlooks e.env e.operation

theorem leftIdle_concat_iff {s : Scheduler δ κ} {demands : List (Demand κ)} {d : Demand κ} :
    LeftIdle s (demands ++ [d]) ↔
      LeftIdle s demands ∧ (s.after demands).scheduler.Overlooks d.env d.operation ∨
        (s.after demands).scheduler.Exhausts d.env d.operation := by
  let exhausts (h : History δ κ) (d : Demand κ) := h.scheduler.Exhausts d.env d.operation
  let overlooks (h : History δ κ) (d : Demand κ) := h.scheduler.Overlooks d.env d.operation
  have since : Since ask exhausts overlooks { scheduler := s } (demands ++ [d]) ↔ _ :=
    since_concat_iff
  exact since

/-- With sessions on demand and without nodes, a session is idle exactly if all that was left to do
has failed while offers were placed, and whatever was asked since has overlooked it. In particular
no session is idle after a worker was cancelled, a status was applied or a request was taken in. -/
theorem idle_session_iff (settings : SchedulerSettings) (session : Session δ)
    (onDemand : settings.onDemand = true) (stopped : session.running = false)
    (demands : List (Demand κ)) (none : ∀ d ∈ demands, d.env.nodes = 0) :
    ((Scheduler.new settings session).after demands).scheduler.Idle ↔
      LeftIdle (.new settings session) demands := by
  induction demands using List.reverseRecOn with
  | nil =>
      refine iff_of_false ?_ ?_
      · rintro ⟨runs, -, -⟩
        rw [Scheduler.after_nil, Scheduler.new, stopped] at runs
        cases runs
      · rintro ⟨before, d, later, parts, -⟩
        simp at parts
  | append_singleton demands d ih =>
      obtain ⟨earlier, last⟩ := List.forall_mem_append.1 none
      have still : ((Scheduler.new settings session).after
          demands).scheduler.settings.onDemand = true := by
        rw [Scheduler.settings_after]
        exact onDemand
      rw [leftIdle_concat_iff, ← ih earlier, Scheduler.after_concat]
      exact Scheduler.idle_run_iff still (last d (List.mem_singleton_self d)) d.operation

end History

namespace Plain

/-- A worker is requested while there are no nodes, and an offer arrives. -/
def fruitless : List (Demand Unit) :=
  [⟨⟨⟨0, 0⟩, 0⟩, .request (worker "w") ()⟩, ⟨⟨⟨0, 0⟩, 0⟩, .offers [offer "o"]⟩]

/-- A session whose driver refuses launches. -/
def refusing : Session Recorder := .new { failLaunches := true } ⟨"", "", "", "", none⟩ 1

/-- The launch of the only worker fails, and the session runs on. -/
theorem idle_session_iff_fruitless :
    refusing.running = false ∧ (∀ d ∈ fruitless, d.env.nodes = 0) ∧
      ((Scheduler.new {} refusing).after fruitless).scheduler.Idle ∧
      History.LeftIdle (.new {} refusing) fruitless := by
  have none : ∀ d ∈ fruitless, d.env.nodes = 0 := by decide
  have idle : ((Scheduler.new {} refusing).after fruitless).scheduler.Idle :=
    ⟨by decide +kernel, by decide +kernel, by decide +kernel⟩
  exact ⟨rfl, none, idle, (History.idle_session_iff {} refusing rfl rfl fruitless none).1 idle⟩

end Plain

end OfferDispatch
