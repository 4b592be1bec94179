import OfferDispatch.Proofs.SessionLife
import OfferDispatch.Proofs.Unmatched

/-!
# Taking in requests

A request joins the queue before it is known whether the session can be made to run for it, and is
taken out again by its name if it cannot. No other request has that name, so that what is taken out
is what was put in: a request that is refused leaves nothing behind but what has been said to the
cluster. One that is taken in is the last of the queue, and the session runs.

What is said to the cluster on the way is told exactly: nothing for a request that is refused at
once, one call for offers if the session was running, and otherwise the attempts to register, up to
the first that succeeds or to the limit.
-/

namespace OfferDispatch

variable {δ κ : Type}

/-! ## The selector of a request -/

namespace Scheduler

/-- The selector that a worker is given: its own one, or that of its label if it brings none. -/
def selectorFor (settings : SchedulerSettings) (w : WorkerSpec Float) : Selector :=
  if w.selector.isEmpty then (settings.labels.find? w.label).getD w.selector else w.selector

theorem constrain_eq_selectorFor (settings : SchedulerSettings) (w : WorkerSpec Float) :
    constrain settings w = { w with selector := selectorFor settings w } := by
  rw [constrain, selectorFor]
  split
  · cases settings.labels.find? w.label <;> rfl
  · rfl

end Scheduler

variable [ClusterDriver δ]

/-! ## Starting a session -/

namespace Session

/-- A session that does not run is started by the first registration that succeeds within the limit,
or all attempts fail and it is as before. -/
theorem start_cases {s : Session δ} (off : s.running = false) (positive : 0 < s.maxAttempts) :
    (∃ p link, s.start = (.ok (), { s with running := true, link := link }) ∧
      IsLeast (successes s.registration s.link.driver) p ∧ p ≤ s.maxAttempts ∧
      link.log = s.link.log ++ attempts s.registration s.link.driver p) ∨
    ∃ e link, s.start = (.error (.registrationFailed s.maxAttempts e), { s with link := link }) ∧
      (∀ p ∈ successes s.registration s.link.driver, s.maxAttempts < p) ∧
      answerOf s.registration s.link.driver (s.maxAttempts - 1) = .error e ∧
      link.log = s.link.log ++ attempts s.registration s.link.driver s.maxAttempts := by
  have starts := starts_of_stopped off positive
  obtain ⟨count, log, bounded, unbounded⟩ := starts.attempts
  cases result : (register s.registration (s.maxAttempts - 1) 0 s.link).1 with
  | ok =>
      left
      have started := start_of_registered off result
      obtain ⟨p, success, le⟩ := starts.ok_iff.1 (congrArg Prod.fst started)
      have least : IsLeast (successes s.registration s.link.driver) _ :=
        isLeast_csInf ⟨p, success⟩
      have within := (least.2 success).trans le
      rw [bounded _ least, Nat.min_eq_left within, started] at log
      exact ⟨_, _, started, least, within, log⟩
  | error e =>
      right
      have started := start_of_refused off result
      have refused : s.start.1 ≠ .ok () := by
        rw [started]
        exact nofun
      have late : ∀ p ∈ successes s.registration s.link.driver, s.maxAttempts < p := by
        intro p success
        by_contra early
        exact refused (starts.ok_iff.2 ⟨p, success, Nat.le_of_not_lt early⟩)
      have all : count = s.maxAttempts := by
        obtain none | some_ := (successes s.registration s.link.driver).eq_empty_or_nonempty
        · exact unbounded none
        · have least := isLeast_csInf some_
          rw [bounded _ least, Nat.min_eq_right (Nat.le_of_lt (late _ least.1))]
      obtain ⟨last, answered, reason⟩ := starts.failed refused
      rw [started] at reason
      obtain rfl : e = last := by simpa using reason
      rw [all, started] at log
      exact ⟨e, _, started, late, answered, log⟩

end Session

/-! ## The number of attempts -/

namespace Session

theorem maxAttempts_start (s : Session δ) : s.start.2.maxAttempts = s.maxAttempts := by
  rw [start]
  split
  · rfl
  · simp only
    split <;> rfl

theorem maxAttempts_revive (s : Session δ) : s.revive.maxAttempts = s.maxAttempts := by
  rw [revive]
  split <;> rfl

theorem maxAttempts_stop (s : Session δ) : s.stop.maxAttempts = s.maxAttempts := by
  rw [stop]
  split <;> rfl

end Session

namespace Scheduler

omit [ClusterDriver δ] in
theorem Placed.maxAttempts_eq {s t : Scheduler δ κ} (h : Placed s t) :
    t.session.maxAttempts = s.session.maxAttempts := by
  obtain ⟨_, _, _, _, _, rfl⟩ := h
  rfl

theorem maxAttempts_supervise (nodes : Nat) (s : Scheduler δ κ) :
    (OfferDispatch.supervise nodes s).2.session.maxAttempts = s.session.maxAttempts := by
  have given := congrArg Session.maxAttempts (session_giveUp nodes s)
  rw [supervise_eq]
  split
  · split
    · exact (Session.maxAttempts_stop _).trans given
    · exact given
  · rfl

/-- Nothing that is done changes how often a registration may be tried. -/
theorem maxAttempts_perform (env : Surroundings) (s : Scheduler δ κ) (action : Action κ) :
    (s.perform env action).2.session.maxAttempts = s.session.maxAttempts := by
  cases action with
  | enlist r =>
      simp only [perform, enlist]
      split
      · split <;> rfl
      · rfl
  | connect worker =>
      simp only [perform, connect]
      split
      · exact s.session.maxAttempts_revive
      · split <;> exact s.session.maxAttempts_start
  | cancel worker =>
      simp only [perform, cancel]
      split
      · rfl
      · split <;> rfl
  | accept o =>
      simp only [perform, accept]
      split <;> rfl
  | startLoop =>
      simp only [perform, ensureLoop]
      split <;> rfl
  | review generation =>
      simp only [perform]
      split <;> rfl
  | apply status =>
      simp only [perform, apply]
      split
      · rfl
      · split <;> rfl
  | place batch =>
      simp only [perform]
      split
      · rfl
      · exact (placed_place env.now s batch).maxAttempts_eq
  | turn generation =>
      simp only [perform, turn]
      split
      · split
        · rfl
        · exact (placed_place env.now { s with buffer := s.buffer.drain.2 } _).maxAttempts_eq
      · rfl
  | stop => exact s.session.maxAttempts_stop
  | supervise | inspect => exact maxAttempts_supervise env.nodes s
  | withdraw | kill | drain | decline | rescind | assign | release | tell | answer => rfl

theorem maxAttempts_acted (s : Scheduler δ κ) (deeds : List (Deed κ)) :
    (s.acted deeds).session.maxAttempts = s.session.maxAttempts :=
  acted_preserves (P := fun t => t.session.maxAttempts = s.session.maxAttempts)
    (fun env t action same => (maxAttempts_perform env t action).trans same) deeds rfl

/-! ## Requests -/

omit [ClusterDriver δ] in
/-- May a worker be asked for with these cpus? -/
abbrev IsAskable (spec : WorkerSpec Float) : Prop := 0.0 ≤ spec.cpus ∧ spec.cpus.isFinite = true

section

variable (s : Scheduler δ κ) (spec : WorkerSpec Float)

/-- A request is refused, and this is what is left of it: nothing at all if its cpus are invalid or
its name is taken, and what was said to the cluster if all attempts to register have failed. -/
inductive Refuses : SchedulerError → Scheduler δ κ → Prop
  | invalid (wrong : ¬ IsAskable spec) : Refuses (.invalidSpec spec.name (.cpus spec.cpus)) s
  | duplicate (valid : IsAskable spec) (taken : s.isTaken spec.name = true) :
    Refuses (.duplicateWorker spec.name) s
  | unregistered (valid : IsAskable spec) (new : s.isTaken spec.name = false)
    (off : s.session.running = false) {last : DriverError} {link : Link δ}
    (failing : ∀ p ∈ successes s.session.registration s.session.link.driver,
      s.session.maxAttempts < p)
    (answered : answerOf s.session.registration s.session.link.driver (s.session.maxAttempts - 1) =
      .error last)
    (said : link.log = s.log ++
      attempts s.session.registration s.session.link.driver s.session.maxAttempts) :
    Refuses (.registrationFailed s.session.maxAttempts last)
      { s with session := { s.session with link := link } }

/-- A request is taken in, and this is what comes of it: it is the last of the queue, and offers
have been asked for once if the session was running, which otherwise has been started by the first
registration that succeeds. -/
inductive TakesIn (callback : κ) : Scheduler δ κ → Prop
  | revived (valid : IsAskable spec) (new : s.isTaken spec.name = false)
    (running : s.session.running = true) {answer : Answer} {link : Link δ}
    (said : link.log = s.log ++ [.call .revive answer]) :
    TakesIn callback { s with
      requests := ⟨s.requests.waiting ++
        [⟨{ spec with selector := selectorFor s.settings spec }, callback⟩]⟩
      session := { s.session with link := link } }
  | registered (valid : IsAskable spec) (new : s.isTaken spec.name = false)
    (off : s.session.running = false) {p : Nat} {link : Link δ}
    (first : IsLeast (successes s.session.registration s.session.link.driver) p)
    (within : p ≤ s.session.maxAttempts)
    (said : link.log = s.log ++ attempts s.session.registration s.session.link.driver p) :
    TakesIn callback { s with
      requests := ⟨s.requests.waiting ++
        [⟨{ spec with selector := selectorFor s.settings spec }, callback⟩]⟩
      session := { s.session with running := true, link := link } }

end

omit [ClusterDriver δ] in
theorem queued_eq (s : Scheduler δ κ) (spec : WorkerSpec Float) (callback : κ) :
    s.queued spec callback = { s with
      requests := ⟨s.requests.waiting ++
        [⟨{ spec with selector := selectorFor s.settings spec }, callback⟩]⟩ } := by
  rw [queued, constrain_eq_selectorFor]
  rfl

section

variable {s t : Scheduler δ κ} {spec : WorkerSpec Float} {callback : κ}

theorem connect_of_running (worker : TaskId) (running : s.session.running = true) :
    s.connect worker = ([.answer .done],
      { s with session := { s.session with link := (s.session.link.call .revive).2 } }) := by
  rw [connect, if_pos running, Session.revive, if_pos running]
  rfl

theorem connect_of_started {session : Session δ} (worker : TaskId)
    (off : s.session.running = false) (started : s.session.start = (.ok (), session)) :
    s.connect worker = ([.answer .done], { s with session := session }) := by
  rw [connect, if_neg (Bool.eq_false_iff.1 off), started]

theorem connect_of_not_started {session : Session δ} {e : SchedulerError} (worker : TaskId)
    (off : s.session.running = false) (failed : s.session.start = (.error e, session)) :
    s.connect worker = ([.withdraw worker e], { s with session := session }) := by
  rw [connect, if_neg (Bool.eq_false_iff.1 off), failed]

/-- A caller for whom the session runs has nothing else to do. -/
theorem run_request_of_connected (env : Surroundings) (valid : IsAskable spec)
    (new : s.isTaken spec.name = false)
    (connected : (s.queued spec callback).connect spec.name = ([.answer .done], t)) :
    s.run env (.request spec callback) = { scheduler := t, reply := some .done } := by
  rw [run_request, if_pos valid, if_neg (Bool.eq_false_iff.1 new), connected]
  rfl

/-- A caller for whom the session could not be started takes the request out of the queue. -/
theorem run_request_of_not_connected (env : Surroundings) {e : SchedulerError}
    (valid : IsAskable spec) (new : s.isTaken spec.name = false)
    (failed : (s.queued spec callback).connect spec.name = ([.withdraw spec.name e], t)) :
    s.run env (.request spec callback) =
      { scheduler := { t with requests := t.requests.erase spec.name }
        reply := some (.refused e) } := by
  rw [run_request, if_pos valid, if_neg (Bool.eq_false_iff.1 new), failed]
  rfl

omit [ClusterDriver δ] in
/-- What is taken out under the name of the request that has just joined the queue is this request,
as no other has its name. -/
theorem erase_queued (new : s.isTaken spec.name = false) :
    (s.queued spec callback).requests.erase spec.name = s.requests := by
  have named : Request.name ⟨constrain s.settings spec, callback⟩ = spec.name :=
    name_constrain s.settings spec
  have absent : s.requests.contains spec.name = false := (Bool.or_eq_false_iff.1 new).2
  rw [← named] at absent ⊢
  exact RequestQueue.erase_push absent

/-- A request under a name that is free is taken in, unless the session cannot be started. -/
theorem intake_cases_of_new (env : Surroundings) (callback : κ)
    (positive : 0 < s.session.maxAttempts) (valid : IsAskable spec)
    (new : s.isTaken spec.name = false) :
    (∃ t e, s.run env (.request spec callback) = { scheduler := t, reply := some (.refused e) } ∧
        s.Refuses spec e t) ∨
      ∃ t, s.run env (.request spec callback) = { scheduler := t, reply := some .done } ∧
        s.TakesIn spec callback t := by
  cases running : s.session.running with
  | true =>
      have connected := connect_of_running (s := s.queued spec callback) spec.name running
      refine .inr ⟨_, run_request_of_connected env valid new connected, ?_⟩
      rw [queued_eq]
      exact .revived valid new running (Link.log_call s.session.link .revive)
  | false =>
      obtain ⟨p, link, started, first, within, said⟩ |
        ⟨last, link, failed, failing, answered, said⟩ := Session.start_cases running positive
      · have connected :=
          connect_of_started (s := s.queued spec callback) spec.name running started
        refine .inr ⟨_, run_request_of_connected env valid new connected, ?_⟩
        rw [queued_eq]
        exact .registered valid new running first within said
      · have failed := connect_of_not_started (s := s.queued spec callback) spec.name running failed
        refine .inl ⟨_, _, run_request_of_not_connected env valid new failed, ?_⟩
        rw [erase_queued new]
        exact .unregistered valid new running failing answered said

/-- A request is refused or taken in, and nobody is told anything. -/
theorem intake_cases (env : Surroundings) (spec : WorkerSpec Float) (callback : κ)
    (positive : 0 < s.session.maxAttempts) :
    (∃ t e, s.run env (.request spec callback) = { scheduler := t, reply := some (.refused e) } ∧
        s.Refuses spec e t) ∨
      ∃ t, s.run env (.request spec callback) = { scheduler := t, reply := some .done } ∧
        s.TakesIn spec callback t := by
  by_cases valid : IsAskable spec
  · cases new : s.isTaken spec.name with
    | true =>
        refine .inl ⟨s, _, ?_, .duplicate valid new⟩
        rw [run_request, if_pos valid, if_pos new]
    | false => exact intake_cases_of_new env callback positive valid new
  · refine .inl ⟨s, _, ?_, .invalid valid⟩
    rw [run_request, if_neg valid]

theorem Refuses.deferred_eq {e : SchedulerError} (h : s.Refuses spec e t) :
    t.deferred = s.deferred := by
  cases h <;> rfl

theorem TakesIn.deferred_eq (h : s.TakesIn spec callback t) : t.deferred = s.deferred := by
  cases h <;> rfl

end

/-- Whatever has been done before, in whatever order, a request is taken in, or it leaves nothing
behind but what was said to the cluster. In neither case does a notice come about. -/
theorem request_all_or_nothing (settings : SchedulerSettings) (driver : δ) (info : FrameworkInfo)
    (limit : Nat) (deeds : List (Deed κ)) (env : Surroundings) (spec : WorkerSpec Float)
    (callback : κ) :
    let s := (new settings (.new driver info limit)).acted deeds
    let run := s.run env (.request spec callback)
    s.session.maxAttempts = max limit 1 ∧
      run.told = [] ∧ (s.chronicle env (.request spec callback)).created = [] ∧
      ((∃ e, run.reply = some (.refused e) ∧ s.Refuses spec e run.scheduler) ∨
        run.reply = some .done ∧ s.TakesIn spec callback run.scheduler) := by
  intro s run
  have attempts : s.session.maxAttempts = max limit 1 := maxAttempts_acted _ deeds
  have positive : 0 < s.session.maxAttempts := attempts ▸ Nat.le_max_right limit 1
  obtain ⟨t, e, came, refused⟩ | ⟨t, came, taken⟩ := s.intake_cases env spec callback positive
  · have silent : run.told = [] := congrArg Run.told came
    have left : run.scheduler = t := congrArg Run.scheduler came
    have deferred : run.scheduler.deferred = s.deferred := left ▸ refused.deferred_eq
    exact ⟨attempts, silent, created_chronicle_eq_nil silent deferred,
      .inl ⟨e, congrArg Run.reply came, left ▸ refused⟩⟩
  · have silent : run.told = [] := congrArg Run.told came
    have left : run.scheduler = t := congrArg Run.scheduler came
    have deferred : run.scheduler.deferred = s.deferred := left ▸ taken.deferred_eq
    exact ⟨attempts, silent, created_chronicle_eq_nil silent deferred,
      .inr ⟨congrArg Run.reply came, left ▸ taken⟩⟩

end Scheduler

namespace Plain

/-- Three registrations are refused, and for each request there are two attempts. -/
def unregistered : Scheduler Recorder Unit :=
  .new {} (.new { failingRegistrations := 3 } ⟨"", "", "", "", none⟩ 2)

-- The first request is taken out of the queue again, and the second one is taken in.
example :
    let first := (unregistered.run moment (.request (worker "v") ())).scheduler
    let second := (first.run moment (.request (worker "w") ())).scheduler
    first.requests.names = [] ∧ first.session.link.driver.calls.length = 2 ∧
      second.requests.names = [⟨"w"⟩] ∧ second.session.link.driver.calls.length = 4 := by
  decide +kernel

end Plain

end OfferDispatch
