import OfferDispatch.Proofs.Frame
import OfferDispatch.Scheduler.Operation

/-!
# What operations come down to

An operation does one thing that counts; what follows is to speak to the cluster, to tell hosts, to
supervise on demand and to return. So what a run makes of a scheduler can be said without following
its agenda: exactly, where that is short, and otherwise in all that concerns requests, tasks,
launches and notices.
-/

namespace OfferDispatch

variable {δ κ : Type}

/-- A request that is taken back leaves the queue as it was, if no other has its name. -/
theorem RequestQueue.erase_push {q : RequestQueue κ} {r : Request κ}
    (new : q.contains r.name = false) : (q.push r).erase r.name = q := by
  have absent : ∀ x ∈ q.waiting, ¬ isFor r.name x = true := by
    intro x member same
    have taken : q.contains r.name = true := List.any_eq_true.2 ⟨x, member, same⟩
    rw [taken] at new
    cases new
  have found : isFor r.name r = true := beq_self_eq_true r.name
  rw [erase, push, List.eraseP_append_right _ absent, List.eraseP_cons_of_pos found,
    List.append_nil]

variable [ClusterDriver δ]

/-! ## Agendas without consequences -/

/-- Does nothing follow from the action, and is it of no concern to requests and tasks? -/
def Action.isPlain : Action κ → Bool
  | .startLoop | .accept _ | .decline .. | .rescind _ | .assign _ | .review _ | .tell _
  | .answer _ => true
  | _ => false

/-- Is the action one that only operations begin with? -/
def Action.isInitial : Action κ → Bool
  | .enlist _ | .cancel _ | .startLoop | .accept _ | .drain | .rescind _ | .apply _ | .assign _
  | .stop | .inspect | .turn _ => true
  | _ => false

namespace Run

theorem step_tell (env : Surroundings) (depth : Nat) (run : Run δ κ) (notice : Notice κ) :
    step env depth run (.tell notice) = { run with told := run.told ++ [notice] } := by
  cases depth <;> rfl

theorem step_answer (env : Surroundings) (depth : Nat) (run : Run δ κ) (reply : Reply) :
    step env depth run (.answer reply) = { run with reply := some reply } := by
  cases depth <;> rfl

@[simp] theorem scheduler_foldl_tell (env : Surroundings) (depth : Nat) (run : Run δ κ)
    (notices : List (Notice κ)) :
    ((notices.map .tell).foldl (step env depth) run).scheduler = run.scheduler := by
  induction notices generalizing run with
  | nil => rfl
  | cons notice rest ih =>
      rw [List.map_cons, List.foldl_cons, ih, step_tell]

/-- What is returned last is what the caller gets. -/
theorem reply_foldl_answer (env : Surroundings) (depth : Nat) (run : Run δ κ)
    (agenda : List (Action κ)) (reply : Reply) :
    ((agenda ++ [Action.answer reply]).foldl (step env depth) run).reply = some reply := by
  rw [List.foldl_append, List.foldl_cons, List.foldl_nil, step_answer]

/-- A plain action is done at once. -/
theorem scheduler_step_of_isPlain (env : Surroundings) (depth : Nat) (run : Run δ κ)
    {action : Action κ} (plain : action.isPlain = true) :
    (step env (depth + 1) run action).scheduler = (run.scheduler.perform env action).2 := by
  cases action with
  | startLoop | accept | decline | rescind | assign | review | tell | answer => rfl
  | _ => cases plain

/-- Plain actions are done one after another. -/
theorem scheduler_foldl_of_isPlain (env : Surroundings) (depth : Nat) {agenda : List (Action κ)}
    (plain : ∀ action ∈ agenda, action.isPlain = true) (run : Run δ κ) :
    (agenda.foldl (step env (depth + 1)) run).scheduler =
      agenda.foldl (fun s action => (s.perform env action).2) run.scheduler := by
  induction agenda generalizing run with
  | nil => rfl
  | cons action rest ih =>
      obtain ⟨first, others⟩ := List.forall_mem_cons.1 plain
      rw [List.foldl_cons, List.foldl_cons, ih others,
        scheduler_step_of_isPlain env depth run first]

theorem quiet_foldl_of_isPlain (env : Surroundings) (depth : Nat) {agenda : List (Action κ)}
    (plain : ∀ action ∈ agenda, action.isPlain = true) (run : Run δ κ) :
    Scheduler.Quiet run.scheduler (agenda.foldl (step env (depth + 1)) run).scheduler := by
  rw [scheduler_foldl_of_isPlain env depth plain]
  refine List.foldlRecOn agenda _ (motive := Scheduler.Quiet run.scheduler) (.refl _) ?_
  intro s before action member
  have quiet : action.isQuiet = true := by
    have ok := plain action member
    cases action <;> first | rfl | cases ok
  exact before.trans (s.quiet_perform env quiet)

end Run

namespace Scheduler

/-! ## Placing -/

omit [ClusterDriver δ] in
theorem isPlain_of_mem_placed (p : Placement δ κ) :
    ∀ action ∈ (placed p).1, action.isPlain = true :=
  List.forall_mem_append.2 ⟨List.forall_mem_map.2 fun _ _ => rfl,
    List.forall_mem_map.2 fun _ _ => rfl⟩

omit [ClusterDriver δ] in
@[simp] theorem arrangeByAffinity_nil (affinity : List AgentId) :
    arrangeByAffinity affinity [] = [] := by
  induction affinity with
  | nil => rfl
  | cons agent rest ih => rw [arrangeByAffinity, List.foldr_cons, ← arrangeByAffinity, ih]; rfl

theorem quiet_place_nil (now : Instant) (s : Scheduler δ κ) :
    Quiet s (s.place now []).scheduler := by
  rw [place, arrangeByAffinity_nil]
  exact ⟨rfl, rfl, rfl, rfl, rfl⟩

/-- A batch is placed, and the rest is to speak to the cluster and to hosts. -/
theorem quiet_step_place (env : Surroundings) (depth : Nat) (run : Run δ κ)
    (batch : List (Offer Float)) :
    Quiet (run.scheduler.place env.now batch).scheduler
      (Run.step env (depth + 2) run (.place batch)).scheduler := by
  cases batch with
  | nil => exact (quiet_place_nil env.now run.scheduler).symm
  | cons first rest =>
      exact Run.quiet_foldl_of_isPlain env depth (isPlain_of_mem_placed _)
        { run with scheduler := (run.scheduler.place env.now (first :: rest)).scheduler }

/-- The scheduler after offers have been declined. -/
def declineAll (s : Scheduler δ κ) (declines : List (OfferId × Duration)) : Scheduler δ κ :=
  declines.foldl (fun s d => { s with session := (s.session.call (.decline d.1 d.2)).2 }) s

theorem scheduler_foldl_decline (env : Surroundings) (depth : Nat)
    (declines : List (OfferId × Duration)) (run : Run δ κ) :
    ((declines.map fun d => Action.decline d.1 d.2).foldl
      (Run.step env (depth + 1)) run).scheduler = run.scheduler.declineAll declines := by
  rw [Run.scheduler_foldl_of_isPlain env depth (List.forall_mem_map.2 fun _ _ => rfl),
    List.foldl_map]
  rfl

/-- A batch is placed, and then the offers that were left over are declined. -/
theorem scheduler_step_place (env : Surroundings) (depth : Nat) (run : Run δ κ)
    {batch : List (Offer Float)} (some : batch ≠ []) :
    (Run.step env (depth + 2) run (.place batch)).scheduler =
      (run.scheduler.place env.now batch).scheduler.declineAll
        (run.scheduler.place env.now batch).declines := by
  have acts : Run.step env (depth + 2) run (.place batch) =
      (run.scheduler.perform env (.place batch)).1.foldl (Run.step env (depth + 1))
        { run with scheduler := (run.scheduler.perform env (.place batch)).2 } := rfl
  have nonempty : ¬ batch.isEmpty = true := fun empty => some (List.isEmpty_iff.1 empty)
  rw [acts, perform, if_neg nonempty, placed, List.foldl_append, Run.scheduler_foldl_tell,
    scheduler_foldl_decline]

theorem quiet_run_process (env : Surroundings) (s : Scheduler δ κ) (batch : List (Offer Float)) :
    Quiet (s.place env.now batch).scheduler (s.run env (.process batch)).scheduler :=
  quiet_step_place env 2 { scheduler := s } batch

/-- The scheduler after offers have been buffered, or declined for want of room. -/
def acceptAll (s : Scheduler δ κ) (delivered : List (Offer Float)) : Scheduler δ κ :=
  delivered.foldl accept s

theorem scheduler_foldl_accept (env : Surroundings) (depth : Nat) (run : Run δ κ)
    (delivered : List (Offer Float)) :
    ((delivered.map .accept).foldl (Run.step env (depth + 1)) run).scheduler =
      run.scheduler.acceptAll delivered := by
  rw [Run.scheduler_foldl_of_isPlain env depth (List.forall_mem_map.2 fun _ _ => rfl),
    List.foldl_map]
  rfl

/-- Buffering touches nothing but the buffer and the link. -/
theorem acceptAll_eq (s : Scheduler δ κ) (delivered : List (Offer Float)) :
    ∃ link, s.acceptAll delivered = { s with
      buffer := delivered.foldl (fun b o => (b.enqueue o).2) s.buffer
      session := { s.session with link := link } } := by
  induction delivered generalizing s with
  | nil => exact ⟨s.session.link, rfl⟩
  | cons o rest ih =>
      have first : ∃ link, s.accept o = { s with
          buffer := (s.buffer.enqueue o).2
          session := { s.session with link := link } } := by
        rw [accept]
        simp only
        split
        · exact ⟨s.session.link, rfl⟩
        · exact ⟨(s.session.link.call _).2, rfl⟩
      obtain ⟨link, here⟩ := first
      obtain ⟨last, later⟩ := ih (s.accept o)
      refine ⟨last, ?_⟩
      rw [acceptAll, List.foldl_cons, ← acceptAll, later, here]
      rfl

theorem quiet_acceptAll (s : Scheduler δ κ) (delivered : List (Offer Float)) :
    Quiet s (s.acceptAll delivered) := by
  induction delivered generalizing s with
  | nil => exact .refl s
  | cons o rest ih =>
      have first : Quiet s (s.accept o) :=
        quiet_perform ⟨⟨0, 0⟩, 0⟩ s (show (Action.accept o : Action κ).isQuiet = true from rfl)
      exact first.trans (ih _)

/-- The scheduler after offers have been buffered and all that are in the buffer have been taken. -/
def received (s : Scheduler δ κ) (delivered : List (Offer Float)) : Scheduler δ κ :=
  { s.acceptAll delivered with buffer := (s.acceptAll delivered).buffer.drain.2 }

/-- Offers are buffered; with a single thread, those in the buffer are placed at once. -/
theorem run_offers (env : Surroundings) (s : Scheduler δ κ) (delivered : List (Offer Float))
    (single : s.settings.multiThreaded = false) :
    ∃ run : Run δ κ, run.scheduler = s.received delivered ∧
      (s.run env (.offers delivered)).scheduler =
        (Run.step env 3 run (.place (s.acceptAll delivered).buffer.offers)).scheduler := by
  have agenda : (Operation.offers delivered : Operation κ).agenda s.settings =
      delivered.map .accept ++ [.drain, .answer .done] := by
    simp [Operation.agenda, single]
  have accepted : ((delivered.map .accept).foldl (Run.step env depth)
      { scheduler := s }).scheduler = s.acceptAll delivered :=
    scheduler_foldl_accept env 3 { scheduler := s } delivered
  rw [run, carryOut, agenda, List.foldl_append, received, ← accepted]
  generalize (delivered.map .accept).foldl (Run.step env depth) { scheduler := s } = r
  exact ⟨{ r with scheduler := { r.scheduler with buffer := r.scheduler.buffer.drain.2 } },
    rfl, rfl⟩

/-- If there is anything in the buffer, it is placed, and then what was left over is declined. -/
theorem scheduler_run_offers (env : Surroundings) (s : Scheduler δ κ)
    (delivered : List (Offer Float)) (single : s.settings.multiThreaded = false) :
    (s.run env (.offers delivered)).scheduler =
      let placed := (s.received delivered).place env.now (s.acceptAll delivered).buffer.offers
      if (s.acceptAll delivered).buffer.offers = [] then s.received delivered
      else placed.scheduler.declineAll placed.declines := by
  obtain ⟨run, same, acts⟩ := s.run_offers env delivered single
  rw [acts, ← same]
  split
  · next none =>
      rw [none]
      rfl
  · next some => exact scheduler_step_place env 1 run some

theorem quiet_run_offers (env : Surroundings) (s : Scheduler δ κ)
    (delivered : List (Offer Float)) (single : s.settings.multiThreaded = false) :
    Quiet (({ s.acceptAll delivered with
        buffer := (s.acceptAll delivered).buffer.drain.2 }).place env.now
          (s.acceptAll delivered).buffer.offers).scheduler
      (s.run env (.offers delivered)).scheduler := by
  obtain ⟨run, same, placed⟩ := s.run_offers env delivered single
  have quiet := quiet_step_place env 1 run (s.acceptAll delivered).buffer.offers
  rw [← placed, same] at quiet
  exact quiet

theorem quiet_run_offers_of_multiThreaded (env : Surroundings) (s : Scheduler δ κ)
    (delivered : List (Offer Float)) (multi : s.settings.multiThreaded = true) :
    Quiet s (s.run env (.offers delivered)).scheduler := by
  have plain : ∀ action ∈ (Operation.offers delivered : Operation κ).agenda s.settings,
      action.isPlain = true := by
    rw [Operation.agenda, if_pos multi, if_pos multi, List.append_nil]
    refine List.forall_mem_append.2 ⟨List.forall_mem_append.2 ⟨?_, ?_⟩, ?_⟩
    · simp [Action.isPlain]
    · exact List.forall_mem_map.2 fun _ _ => rfl
    · simp [Action.isPlain]
  exact Run.quiet_foldl_of_isPlain env 3 plain { scheduler := s }

theorem isPlain_of_mem_turn (now : Instant) (s : Scheduler δ κ) (generation : Nat) :
    ∀ action ∈ (s.turn now generation).1, action.isPlain = true := by
  simp only [turn]
  split
  · split
    · simp [Action.isPlain]
    · exact List.forall_mem_append.2 ⟨isPlain_of_mem_placed _, by simp [Action.isPlain]⟩
  · simp

/-- What a loop does after it has placed the offers that it has taken. -/
theorem scheduler_run_turn (env : Surroundings) (s : Scheduler δ κ) (generation : Nat) :
    (s.run env (.turn generation)).scheduler =
      (s.turn env.now generation).1.foldl (fun t action => (t.perform env action).2)
        (s.turn env.now generation).2 :=
  Run.scheduler_foldl_of_isPlain env 2 (isPlain_of_mem_turn env.now s generation)
    { scheduler := (s.turn env.now generation).2 }

/-- A loop places what is in the buffer while the session runs, and does nothing otherwise. -/
theorem quiet_run_turn (env : Surroundings) (s : Scheduler δ κ) (generation : Nat) :
    Quiet (if s.session.running then
        (({ s with buffer := s.buffer.drain.2 }).place env.now s.buffer.offers).scheduler else s)
      (s.run env (.turn generation)).scheduler := by
  have rest : Quiet (s.turn env.now generation).2 (s.run env (.turn generation)).scheduler :=
    Run.quiet_foldl_of_isPlain env 2 (isPlain_of_mem_turn env.now s generation)
      { scheduler := (s.turn env.now generation).2 }
  refine Quiet.trans ?_ rest
  simp only [turn]
  split
  · split
    · next empty =>
        have nothing : s.buffer.offers = [] := List.isEmpty_iff.1 empty
        rw [nothing]
        have same : Quiet { s with buffer := s.buffer.drain.2 } s := ⟨rfl, rfl, rfl, rfl, rfl⟩
        exact (quiet_place_nil env.now { s with buffer := s.buffer.drain.2 }).symm.trans same
    · exact .refl _
  · exact ⟨rfl, rfl, rfl, rfl, rfl⟩

/-! ## Taking in requests -/

omit [ClusterDriver δ] in
@[simp] theorem name_constrain (settings : SchedulerSettings) (w : WorkerSpec Float) :
    (constrain settings w).name = w.name := by
  rw [constrain]
  split
  · split <;> rfl
  · rfl

omit [ClusterDriver δ] in
/-- A request is refused, or it joins the queue under a name that is not taken. -/
theorem enlist_cases (s : Scheduler δ κ) (r : Request κ) :
    (∃ e, s.enlist r = ([.answer (.refused e)], s)) ∨
      s.isTaken r.name = false ∧
      s.enlist r = ([.connect r.name],
        { s with requests := s.requests.push { r with spec := constrain s.settings r.spec } }) := by
  rw [enlist]
  split
  · by_cases taken : s.isTaken r.name = true
    · exact .inl ⟨_, if_pos taken⟩
    · have same : ({ r with spec := constrain s.settings r.spec } : Request κ).name = r.name :=
        name_constrain _ _
      right
      rw [if_neg taken]
      simp only [same, and_true]
      exact Bool.eq_false_iff.2 taken
  · exact .inl ⟨_, rfl⟩

/-- A session that is started runs, or its registration has failed for good. -/
theorem connect_cases (s : Scheduler δ κ) (worker : TaskId) :
    (s.connect worker).1 = [.answer .done] ∨ ∃ attempts last,
      (s.connect worker).1 = [.withdraw worker (.registrationFailed attempts last)] := by
  rw [connect]
  split
  · exact .inl rfl
  · next stopped =>
      rw [Session.start, if_neg stopped]
      simp only
      cases (Session.register s.session.registration (s.session.maxAttempts - 1) 0
          s.session.link).1 with
      | ok => exact .inl rfl
      | error last => exact .inr ⟨_, last, rfl⟩

/-- What follows from an action is nothing that an operation would begin with. -/
theorem isInitial_of_mem_perform {env : Surroundings} {s : Scheduler δ κ} {action next : Action κ}
    (h : next ∈ (s.perform env action).1) : next.isInitial = false := by
  have ended (h : next ∈ s.afterEnd) : next.isInitial = false := by
    rw [afterEnd] at h
    split at h
    · obtain rfl | rfl := by simpa using h
      · rfl
      · rfl
    · obtain rfl := List.mem_singleton.1 h
      rfl
  have left (p : Placement δ κ) (h : next ∈ (placed p).1) : next.isInitial = false := by
    obtain declines | tells := List.mem_append.1 h
    · obtain ⟨_, -, rfl⟩ := List.mem_map.1 declines
      rfl
    · obtain ⟨_, -, rfl⟩ := List.mem_map.1 tells
      rfl
  have returns {agenda : List (Action κ)} {reply : Reply}
      (first : next ∈ agenda → next.isInitial = false) (h : next ∈ agenda ++ [.answer reply]) :
      next.isInitial = false := by
    obtain earlier | last := List.mem_append.1 h
    · exact first earlier
    · obtain rfl := List.mem_singleton.1 last
      rfl
  have single {action : Action κ} (h : next ∈ [action]) (other : action.isInitial = false) :
      next.isInitial = false := by
    obtain rfl := List.mem_singleton.1 h
    exact other
  cases action with
  | enlist r =>
      obtain ⟨e, refused⟩ | ⟨-, taken⟩ := s.enlist_cases r
      · rw [perform, refused] at h
        exact single h rfl
      · rw [perform, taken] at h
        exact single h rfl
  | connect worker =>
      obtain ready | ⟨attempts, last, failed⟩ := s.connect_cases worker
      · rw [perform, ready] at h
        exact single h rfl
      · rw [perform, failed] at h
        exact single h rfl
  | cancel worker =>
      simp only [perform, cancel] at h
      split at h
      · exact single h rfl
      · split at h
        · refine returns ?_ h
          intro earlier
          obtain rfl | earlier := List.mem_cons.1 earlier
          · rfl
          · exact ended earlier
        · exact returns ended h
  | kill worker => exact returns ended h
  | withdraw | drain | inspect => exact single h rfl
  | place batch =>
      simp only [perform] at h
      split at h
      · cases h
      · exact left _ h
  | apply status =>
      simp only [perform, apply] at h
      split at h
      · refine returns ?_ h
        intro earlier
        obtain tells | earlier := List.mem_append.1 earlier
        · obtain ⟨_, -, rfl⟩ := List.mem_map.1 tells
          rfl
        · exact ended earlier
      · split at h
        · exact single h rfl
        · exact returns ended h
  | release =>
      obtain ⟨_, -, rfl⟩ := List.mem_map.1 h
      rfl
  | turn generation =>
      simp only [perform, turn] at h
      split at h
      · split at h
        · exact single h rfl
        · obtain placed | last := List.mem_append.1 h
          · exact left _ placed
          · exact single last rfl
      · cases h
  | _ => cases h

def queued (s : Scheduler δ κ) (spec : WorkerSpec Float) (callback : κ) : Scheduler δ κ :=
  { s with requests := s.requests.push ⟨constrain s.settings spec, callback⟩ }

/-- A request is refused at once for its cpus or its name, or it joins the queue and the session is
made to run on its behalf. -/
theorem run_request (env : Surroundings) (s : Scheduler δ κ) (spec : WorkerSpec Float)
    (callback : κ) :
    s.run env (.request spec callback) =
      if 0.0 ≤ spec.cpus ∧ spec.cpus.isFinite = true then
        if s.isTaken spec.name then
          { scheduler := s, reply := some (.refused (.duplicateWorker spec.name)) }
        else
          ((s.queued spec callback).connect spec.name).1.foldl (Run.step env 2)
            { scheduler := ((s.queued spec callback).connect spec.name).2 }
      else
        { scheduler := s
          reply := some (.refused (.invalidSpec spec.name (.cpus spec.cpus))) } := by
  have acts : s.run env (.request spec callback) =
      (s.enlist ⟨spec, callback⟩).1.foldl (Run.step env 3)
        { scheduler := (s.enlist ⟨spec, callback⟩).2 } := rfl
  simp only [acts, enlist, Request.name, name_constrain]
  by_cases valid : 0.0 ≤ spec.cpus ∧ spec.cpus.isFinite = true
  · rw [if_pos valid, if_pos valid]
    by_cases taken : s.isTaken spec.name = true
    · rw [if_pos taken, if_pos taken]
      rfl
    · rw [if_neg taken, if_neg taken]
      rfl
  · rw [if_neg valid, if_neg valid]
    rfl

/-- A request is refused and nothing is left of it, or it joins the queue under a new name. -/
theorem quiet_run_request (env : Surroundings) (s : Scheduler δ κ) (spec : WorkerSpec Float)
    (callback : κ) :
    (s.run env (.request spec callback)).told = [] ∧
    ((∃ e, (s.run env (.request spec callback)).reply = some (.refused e) ∧
      Quiet s (s.run env (.request spec callback)).scheduler) ∨
    ∃ r : Request κ, r.callback = callback ∧ s.isTaken r.name = false ∧
      (s.run env (.request spec callback)).reply = some .done ∧
      Quiet { s with requests := s.requests.push r }
        (s.run env (.request spec callback)).scheduler) := by
  rw [run_request]
  split
  · split
    · exact ⟨rfl, .inl ⟨_, rfl, .refl s⟩⟩
    · next taken =>
        let r : Request κ := ⟨constrain s.settings spec, callback⟩
        have named : r.name = spec.name := name_constrain _ _
        have free : s.isTaken r.name = false := named ▸ Bool.eq_false_iff.2 taken
        have speaks : (Action.connect spec.name : Action κ).isQuiet = true := rfl
        have quiet : Quiet (s.queued spec callback)
            ((s.queued spec callback).connect spec.name).2 := quiet_perform env _ speaks
        obtain ready | ⟨attempts, last, failed⟩ :=
          (s.queued spec callback).connect_cases spec.name
        · rw [ready]
          exact ⟨rfl, .inr ⟨r, rfl, free, rfl, quiet⟩⟩
        · have restored : ((s.queued spec callback).connect spec.name).2.requests.erase spec.name =
              s.requests := by
            rw [quiet.requests, ← named]
            exact RequestQueue.erase_push (Bool.or_eq_false_iff.1 free).2
          rw [failed]
          refine ⟨rfl, .inl ⟨_, rfl, ?_⟩⟩
          exact ⟨restored, quiet.tracker, quiet.deferred, quiet.generation, quiet.launches⟩
  · exact ⟨rfl, .inl ⟨_, rfl, .refl s⟩⟩

/-! ## Ending and settling -/

/-- The scheduler once supervision on demand has been seen to and what was deferred is told. -/
def wrapUp (env : Surroundings) (s : Scheduler δ κ) : Scheduler δ κ :=
  { (if s.settings.onDemand then (OfferDispatch.supervise env.nodes s).2 else s) with
    deferred := [] }

theorem scheduler_foldl_afterEnd (env : Surroundings) (depth : Nat) {s : Scheduler δ κ}
    {run : Run δ κ} (same : run.scheduler.settings = s.settings) :
    (s.afterEnd.foldl (Run.step env (depth + 2)) run).scheduler = run.scheduler.wrapUp env := by
  rw [afterEnd, wrapUp]
  rw [← same]
  split
  · let supervised := (OfferDispatch.supervise env.nodes run.scheduler).2
    exact Run.scheduler_foldl_tell env (depth + 1)
      { run with scheduler := { supervised with deferred := [] } } supervised.deferred
  · exact Run.scheduler_foldl_tell env (depth + 1)
      { run with scheduler := { run.scheduler with deferred := [] } } run.scheduler.deferred

/-- What follows the end of a worker is the same, whatever hosts are told first. -/
theorem scheduler_foldl_tell_afterEnd (env : Surroundings) (depth : Nat) {s : Scheduler δ κ}
    (run : Run δ κ) (same : run.scheduler.settings = s.settings) (notices : List (Notice κ))
    (reply : Reply) :
    ((notices.map Action.tell ++ s.afterEnd ++ [Action.answer reply]).foldl
      (Run.step env (depth + 2)) run).scheduler = run.scheduler.wrapUp env := by
  let next := (notices.map Action.tell).foldl (Run.step env (depth + 2)) run
  have told : next.scheduler = run.scheduler := Run.scheduler_foldl_tell ..
  have ended := scheduler_foldl_afterEnd env depth (told ▸ same)
  rw [List.foldl_append, List.foldl_append, List.foldl_cons, List.foldl_nil, Run.step_answer,
    ← told]
  exact ended

theorem run_status (env : Surroundings) (s : Scheduler δ κ) (status : TaskStatus) :
    (s.run env (.status status)).scheduler =
      match s.tracker.onStatus? status with
      | some effect => wrapUp env { s with tracker := effect.tracker }
      | none => if s.session.running then s else s.wrapUp env := by
  have acts : (s.run env (.status status)).scheduler =
      ((s.apply status).1.foldl (Run.step env 3) { scheduler := (s.apply status).2 }).scheduler :=
    rfl
  rw [acts, apply]
  cases s.tracker.onStatus? status with
  | some effect =>
      exact scheduler_foldl_tell_afterEnd env 1
        { scheduler := { s with tracker := effect.tracker } } rfl effect.notices _
  | none =>
      by_cases running : s.session.running = true
      · simp only [if_pos running]
        rfl
      · simp only [if_neg running]
        exact scheduler_foldl_tell_afterEnd env 1 { scheduler := s } rfl [] _

theorem run_cancel (env : Surroundings) (s : Scheduler δ κ) (worker : TaskId) :
    (s.run env (.cancel worker)).scheduler =
      if s.tracker.contains worker then
        wrapUp env { s with session := (s.session.call (.kill worker)).2 }
      else match s.requests.remove? worker with
        | some taken => wrapUp env { s with requests := taken.2 }
        | none => s.wrapUp env := by
  have acts : (s.run env (.cancel worker)).scheduler =
      ((s.cancel worker).1.foldl (Run.step env 3) { scheduler := (s.cancel worker).2 }).scheduler :=
    rfl
  rw [acts, cancel]
  by_cases live : s.tracker.contains worker = true
  · rw [if_pos live, if_pos live]
    exact scheduler_foldl_tell_afterEnd env 0
      { scheduler := { s with session := (s.session.call (.kill worker)).2 } } rfl [] _
  · rw [if_neg live, if_neg live]
    cases s.requests.remove? worker with
    | some taken =>
        exact scheduler_foldl_tell_afterEnd env 1
          { scheduler := { s with requests := taken.2 } } rfl [taken.1.failed] _
    | none => exact scheduler_foldl_tell_afterEnd env 1 { scheduler := s } rfl [] _

/-- A cancellation is refused only if the worker is live and the cluster does not kill it. -/
theorem reply_cancel (env : Surroundings) (s : Scheduler δ κ) (worker : TaskId) :
    (s.run env (.cancel worker)).reply =
      some (if s.tracker.contains worker then
          match (s.session.call (.kill worker)).1 with
          | .ok () => .done
          | .error e => .refused (.driver e)
        else .done) := by
  have acts : (s.run env (.cancel worker)).reply =
      ((s.cancel worker).1.foldl (Run.step env 3) { scheduler := (s.cancel worker).2 }).reply := rfl
  rw [acts, cancel]
  split
  · exact Run.reply_foldl_answer env 2 ..
  · cases s.requests.remove? worker with
    | some taken => exact Run.reply_foldl_answer env 3 _ (.tell taken.1.failed :: s.afterEnd) .done
    | none => exact Run.reply_foldl_answer env 3 ..

/-- What the caller gets for a status. -/
theorem reply_status (env : Surroundings) (s : Scheduler δ κ) (status : TaskStatus) :
    (s.run env (.status status)).reply =
      some (match s.tracker.onStatus? status with
        | some effect => .outcome effect.outcome
        | none =>
          if s.session.running then .refused (.unknownTask status.task)
          else .outcome .rejected) := by
  have acts : (s.run env (.status status)).reply =
      ((s.apply status).1.foldl (Run.step env 3) { scheduler := (s.apply status).2 }).reply := rfl
  rw [acts, apply]
  cases s.tracker.onStatus? status with
  | some effect => exact Run.reply_foldl_answer ..
  | none =>
      by_cases running : s.session.running = true
      · simp only [if_pos running]
        rfl
      · simp only [if_neg running]
        exact Run.reply_foldl_answer ..

end Scheduler

end OfferDispatch
