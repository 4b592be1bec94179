import OfferDispatch.Proofs.Course

/-!
# Callbacks are only handed on

What hosts are called back with goes into the scheduler with a request and comes out of it with
notices. Nothing in between looks at it: put something else in its place, and the scheduler does the
same, with that in its place. So it may be assumed of every course of events that callbacks bring
along whatever helps to tell them apart.
-/

namespace OfferDispatch

variable {δ κ ν : Type}

/-! ## Replacing callbacks -/

/-- The request with another callback. -/
def Request.map (f : κ → ν) (r : Request κ) : Request ν := ⟨r.spec, f r.callback⟩

def RequestQueue.map (f : κ → ν) (q : RequestQueue κ) : RequestQueue ν := ⟨q.waiting.map (.map f)⟩

def LiveTask.map (f : κ → ν) (t : LiveTask κ) : LiveTask ν :=
  ⟨t.offer, t.agent, t.request.map f, t.state, t.announced⟩

def Tracker.map (f : κ → ν) (t : Tracker κ) : Tracker ν := ⟨t.live.map (.map f), t.retired⟩

def Notice.map (f : κ → ν) (n : Notice κ) : Notice ν := ⟨n.kind, n.place, f n.callback⟩

def StatusEffect.map (f : κ → ν) (e : StatusEffect κ) : StatusEffect ν :=
  ⟨e.outcome, e.notices.map (.map f), e.tracker.map f⟩

def Submission.map (f : κ → ν) (s : Submission δ κ) : Submission δ ν :=
  ⟨s.result, s.link, s.tracker.map f, s.notices.map (.map f)⟩

/-- The scheduler with other callbacks. -/
def Scheduler.map (f : κ → ν) (s : Scheduler δ κ) : Scheduler δ ν where
  settings := s.settings
  session := s.session
  requests := s.requests.map f
  tracker := s.tracker.map f
  affinity := s.affinity
  unmatched := s.unmatched
  buffer := s.buffer
  deferred := s.deferred.map (.map f)
  generation := s.generation
  loops := s.loops

def Placement.map (f : κ → ν) (p : Placement δ κ) : Placement δ ν :=
  ⟨p.scheduler.map f, p.declines, p.notices.map (.map f)⟩

def Action.map (f : κ → ν) : Action κ → Action ν
  | .enlist r => .enlist (r.map f)
  | .tell notice => .tell (notice.map f)
  | .connect worker => .connect worker
  | .withdraw worker e => .withdraw worker e
  | .cancel worker => .cancel worker
  | .kill worker => .kill worker
  | .startLoop => .startLoop
  | .accept o => .accept o
  | .drain => .drain
  | .place batch => .place batch
  | .decline o refuse => .decline o refuse
  | .rescind o => .rescind o
  | .apply s => .apply s
  | .assign id => .assign id
  | .stop => .stop
  | .supervise => .supervise
  | .inspect => .inspect
  | .release => .release
  | .turn generation => .turn generation
  | .review generation => .review generation
  | .answer reply => .answer reply

def Operation.map (f : κ → ν) : Operation κ → Operation ν
  | .request spec callback => .request spec (f callback)
  | .cancel worker => .cancel worker
  | .offers delivered => .offers delivered
  | .process batch => .process batch
  | .rescind offer => .rescind offer
  | .registered id => .registered id
  | .status s => .status s
  | .remark news => .remark news
  | .error message => .error message
  | .stop => .stop
  | .supervise => .supervise
  | .turn generation => .turn generation

def Demand.map (f : κ → ν) (d : Demand κ) : Demand ν := ⟨d.env, d.operation.map f⟩

def Chronicle.map (f : κ → ν) (c : Chronicle δ κ) : Chronicle δ ν :=
  { scheduler := c.scheduler.map f
    told := c.told.map (.map f)
    reply := c.reply
    created := c.created.map (.map f) }

def History.map (f : κ → ν) (h : History δ κ) : History δ ν where
  scheduler := h.scheduler.map f
  told := h.told.map (.map f)
  created := h.created.map (.map f)
  replies := h.replies

/-! ## What is replaced and what is not -/

@[simp] theorem Request.spec_map (f : κ → ν) (r : Request κ) : (r.map f).spec = r.spec := rfl

namespace LiveTask

variable (f : κ → ν) (t : LiveTask κ)

@[simp] theorem id_map : (t.map f).id = t.id := rfl

@[simp] theorem announced_map : (t.map f).announced = t.announced := rfl

theorem launched_map (offer : OfferId) (agent : AgentId) (r : Request κ) :
    launched offer agent (r.map f) = (launched offer agent r).map f := rfl

end LiveTask

namespace Scheduler

variable (f : κ → ν) (s : Scheduler δ κ)

@[simp] theorem settings_map : (s.map f).settings = s.settings := rfl

@[simp] theorem session_map : (s.map f).session = s.session := rfl

@[simp] theorem requests_map : (s.map f).requests = s.requests.map f := rfl

@[simp] theorem tracker_map : (s.map f).tracker = s.tracker.map f := rfl

@[simp] theorem affinity_map : (s.map f).affinity = s.affinity := rfl

@[simp] theorem buffer_map : (s.map f).buffer = s.buffer := rfl

@[simp] theorem deferred_map : (s.map f).deferred = s.deferred.map (.map f) := rfl

@[simp] theorem loops_map : (s.map f).loops = s.loops := rfl

end Scheduler

/-! ## Queues and trackers -/

namespace RequestQueue

variable (f : κ → ν) (q : RequestQueue κ)

theorem map_push (r : Request κ) : (q.map f).push (r.map f) = (q.push r).map f := by
  simp [push, map]

theorem map_take? (test : Request ν → Bool) :
    (q.map f).take? test =
      (q.take? fun r => test (r.map f)).map fun taken => (taken.1.map f, taken.2.map f) := by
  simp only [take?, map, List.find?_map, List.eraseP_map, Option.map_map]
  rfl

theorem map_erase (worker : TaskId) : (q.map f).erase worker = (q.erase worker).map f := by
  simp only [erase, map, List.eraseP_map]
  rfl

theorem contains_map (worker : TaskId) : (q.map f).contains worker = q.contains worker := by
  simp only [contains, map, List.any_map]
  rfl

theorem size_map : (q.map f).size = q.size := List.length_map _

theorem isEmpty_map : (q.map f).isEmpty = q.isEmpty := List.isEmpty_map

theorem labels_map : (q.map f).labels = q.labels := List.map_map

end RequestQueue

namespace Tracker

variable (f : κ → ν) (t : Tracker κ)

theorem map_find? (task : TaskId) : (t.map f).find? task = (t.find? task).map (.map f) :=
  List.find?_map

theorem contains_map (task : TaskId) : (t.map f).contains task = t.contains task := List.any_map

theorem isKnown_map (task : TaskId) : (t.map f).isKnown task = t.isKnown task := by
  rw [isKnown, contains_map]
  rfl

theorem size_map : (t.map f).size = t.size := List.length_map _

theorem map_insert (task : LiveTask κ) : (t.map f).insert (task.map f) = (t.insert task).map f := by
  simp only [insert, map, List.filter_map, List.map_append]
  rfl

theorem map_replace (task : LiveTask κ) :
    (t.map f).replace (task.map f) = (t.replace task).map f := by
  simp only [replace, map, List.map_map, Tracker.mk.injEq, and_true]
  refine List.map_congr_left ?_
  intro l _
  exact (apply_ite (LiveTask.map f) (l.id == task.id) task l).symm

theorem map_retire (task : TaskId) (ending : Ending) :
    (t.map f).retire task ending = (t.retire task ending).map f := by
  simp only [retire, map, List.filter_map]
  rfl

theorem map_advance (task : LiveTask κ) (status : TaskStatus) :
    (t.map f).advance (task.map f) status = (t.advance task status).map f := by
  rw [advance, advance]
  split
  · rw [LiveTask.id_map, map_retire]
    rfl
  · rw [LiveTask.announced_map]
    split
    · exact congrArg (StatusEffect.mk _ _)
        (map_replace f t { task with state := status.state, announced := true })
    · exact congrArg (StatusEffect.mk _ _) (map_replace f t { task with state := status.state })

theorem map_onStatus? (status : TaskStatus) :
    (t.map f).onStatus? status = (t.onStatus? status).map (.map f) := by
  rw [onStatus?, onStatus?]
  rw [map_find?]
  cases t.find? status.task with
  | none =>
      simp only [Option.map_none, Option.map_map]
      rfl
  | some task =>
      simp only [Option.map_some, map_advance, apply_ite (Option.map (StatusEffect.map f))]
      rfl

theorem map_clear : (t.map f).clear = t.clear.map f := by
  simp only [clear, map, List.foldl_map]
  rfl

theorem map_clearNotices : (t.map f).clearNotices = t.clearNotices.map (.map f) := by
  simp only [clearNotices, map, List.map_map]
  rfl

end Tracker

/-! ## Placing -/

theorem Launcher.submit_map [ClusterDriver δ] (f : κ → ν) (l : Launcher) (link : Link δ)
    (o : Offer Float) (r : Request κ) (allocated : List UInt64) (t : Tracker κ) :
    l.submit link o (r.map f) allocated (t.map f) = (l.submit link o r allocated t).map f := by
  rw [submit, submit]
  rw [Request.spec_map]
  cases l.build o r.spec allocated with
  | error fault => rfl
  | ok task =>
      cases called : link.call (.launch o.id task) with
      | mk answer after =>
          cases answer with
          | ok =>
              simp only [called]
              rw [LiveTask.launched_map, Tracker.map_insert]
              rfl
          | error e =>
              simp only [called]
              rfl

namespace Placement

variable [ClusterDriver δ] (f : κ → ν)

theorem map_launch (p : Placement δ κ) (o : Offer Float) (r : Request κ) (rest : RequestQueue κ) :
    (p.map f).launch o (r.map f) (rest.map f) = (p.launch o r rest).map f := by
  have submitted : (p.map f).scheduler.launcher.submit (p.map f).scheduler.session.link o (r.map f)
      (o.allocation (p.map f).scheduler.settings.role (r.map f).spec) (p.map f).scheduler.tracker =
      (p.scheduler.launcher.submit p.scheduler.session.link o r
        (o.allocation p.scheduler.settings.role r.spec) p.scheduler.tracker).map f :=
    Launcher.submit_map ..
  simp only [launch, submitted]
  generalize p.scheduler.launcher.submit p.scheduler.session.link o r
    (o.allocation p.scheduler.settings.role r.spec) p.scheduler.tracker = submission
  obtain ⟨result, link, tracker, notices⟩ := submission
  cases result with
  | ok task => rfl
  | error e =>
      simp only [Submission.map, decline, map, List.map_append]
      rfl

theorem map_offer (now : Instant) (p : Placement δ κ) (o : Offer Float) :
    (p.map f).offer now o = (p.offer now o).map f := by
  have test : (p.map f).scheduler.requests.take?
        (fun r => o.satisfies (p.map f).scheduler.settings.role r.spec) =
      (p.scheduler.requests.take? fun r => o.satisfies p.scheduler.settings.role r.spec).map
        fun taken => (taken.1.map f, taken.2.map f) :=
    RequestQueue.map_take? ..
  simp only [offer, test, show (p.map f).scheduler.requests.isEmpty = p.scheduler.requests.isEmpty
    from RequestQueue.isEmpty_map ..]
  split
  · rfl
  split
  · cases p.scheduler.requests.take? fun r => o.satisfies p.scheduler.settings.role r.spec with
    | none => rfl
    | some taken => exact map_launch f p o taken.1 taken.2
  · rfl

theorem map_foldl_offer (now : Instant) (batch : List (Offer Float)) (p : Placement δ κ) :
    batch.foldl (offer now) (p.map f) = (batch.foldl (offer now) p).map f := by
  induction batch generalizing p with
  | nil => rfl
  | cons o rest ih => rw [List.foldl_cons, List.foldl_cons, map_offer, ih]

end Placement

namespace Scheduler

variable [ClusterDriver δ] (f : κ → ν) (s : Scheduler δ κ)

theorem map_place (now : Instant) (batch : List (Offer Float)) :
    (s.map f).place now batch = (s.place now batch).map f := by
  have placed := Placement.map_foldl_offer f now (arrangeByAffinity s.affinity batch) ⟨s, [], []⟩
  rw [place, place]
  rw [show (⟨s.map f, [], []⟩ : Placement δ ν) = (⟨s, [], []⟩ : Placement δ κ).map f from rfl,
    affinity_map, placed]
  simp only [noteUnmatched, Placement.map, map, RequestQueue.labels_map]

omit [ClusterDriver δ] in
theorem map_giveUp (nodes : Nat) : (s.map f).giveUp nodes = (s.giveUp nodes).map f := by
  rw [giveUp, giveUp]
  split
  · simp only [map, Tracker.map_clear, Tracker.map_clearNotices, List.map_append]
  · rfl

theorem settled_map (nodes : Nat) : ((s.map f).settle nodes).1 = (s.settle nodes).1 := by
  have pending : (s.map f).pending = s.pending := RequestQueue.size_map f s.requests
  have size : (s.map f).tracker.size = s.tracker.size := Tracker.size_map f s.tracker
  have lost : (s.map f).tracker.clearNotices.length = s.tracker.clearNotices.length := by
    simp [Tracker.clearNotices, map, Tracker.map]
  by_cases none : nodes = 0
  · have cleared : (s.map f).tracker.clear.size = s.tracker.clear.size := rfl
    simp only [settle, none, if_true, pending, cleared, lost]
  · simp only [settle, none, if_false, pending, size]
    rfl

theorem map_supervise (nodes : Nat) :
    OfferDispatch.supervise nodes (s.map f) =
      ((OfferDispatch.supervise nodes s).1, (OfferDispatch.supervise nodes s).2.map f) := by
  have pending : (s.map f).pending = s.pending := RequestQueue.size_map f s.requests
  refine Prod.ext ?_ ?_
  · simp only [OfferDispatch.supervise, Supervised.isRunning, Supervised.settle]
    rw [settled_map, session_map]
    split <;> rfl
  · rw [supervise_eq, supervise_eq, pending, map_giveUp, session_map]
    split
    · split <;> rfl
    · rfl

omit [ClusterDriver δ] in
theorem map_enlist (r : Request κ) :
    (s.map f).enlist (r.map f) = ((s.enlist r).1.map (.map f), (s.enlist r).2.map f) := by
  have taken : (s.map f).isTaken (r.map f).name = s.isTaken r.name := by
    rw [isTaken, isTaken, tracker_map, requests_map, Tracker.isKnown_map,
      RequestQueue.contains_map]
    rfl
  rw [enlist, enlist]
  rw [taken, Request.spec_map, settings_map]
  split
  · split
    · rfl
    · have pushed := RequestQueue.map_push f s.requests
        { r with spec := constrain s.settings r.spec }
      simp only [map, ← pushed]
      rfl
  · rfl

theorem map_connect (worker : TaskId) :
    (s.map f).connect worker = ((s.connect worker).1.map (.map f), (s.connect worker).2.map f) := by
  rw [connect, connect]
  rw [session_map]
  split
  · rfl
  · simp only
    split <;> rfl

omit [ClusterDriver δ] in
theorem map_afterEnd : (s.map f).afterEnd = s.afterEnd.map (.map f) := by
  rw [afterEnd, afterEnd]
  rw [settings_map]
  split <;> rfl

omit [ClusterDriver δ] in
theorem map_cancel (worker : TaskId) :
    (s.map f).cancel worker = ((s.cancel worker).1.map (.map f), (s.cancel worker).2.map f) := by
  rw [cancel, cancel]
  have removed : (s.requests.map f).remove? worker = (s.requests.remove? worker).map
      fun taken => (taken.1.map f, taken.2.map f) := RequestQueue.map_take? ..
  rw [tracker_map, requests_map, Tracker.contains_map, removed]
  split
  · rfl
  · cases s.requests.remove? worker with
    | none =>
        simp only [Option.map_none, map_afterEnd, List.map_append]
        rfl
    | some taken =>
        simp only [Option.map_some, map_afterEnd, List.map_append, List.map_cons]
        rfl

theorem map_kill (worker : TaskId) :
    (s.map f).kill worker = ((s.kill worker).1.map (.map f), (s.kill worker).2.map f) := by
  simp only [kill, map_afterEnd, List.map_append]
  rfl

omit [ClusterDriver δ] in
theorem map_placed (p : Placement δ κ) :
    placed (p.map f) = ((placed p).1.map (.map f), (placed p).2.map f) := by
  simp only [placed, Placement.map, List.map_append, List.map_map]
  rfl

omit [ClusterDriver δ] in
theorem map_apply (status : TaskStatus) :
    (s.map f).apply status = ((s.apply status).1.map (.map f), (s.apply status).2.map f) := by
  rw [apply, apply]
  rw [tracker_map, session_map, Tracker.map_onStatus?]
  cases s.tracker.onStatus? status with
  | none =>
      simp only [Option.map_none, map_afterEnd]
      split
      · rfl
      · simp only [List.map_append]
        rfl
  | some effect =>
      simp only [Option.map_some, map_afterEnd, StatusEffect.map, List.map_append, List.map_map]
      rfl

theorem map_turn (now : Instant) (generation : Nat) :
    (s.map f).turn now generation =
      ((s.turn now generation).1.map (.map f), (s.turn now generation).2.map f) := by
  rw [turn, turn, session_map, buffer_map]
  split
  · simp only
    split
    · rfl
    · let drained : Scheduler δ κ := { s with buffer := s.buffer.drain.2 }
      have same : placed ((drained.map f).place now s.buffer.drain.1) =
          ((placed (drained.place now s.buffer.drain.1)).1.map (.map f),
            (placed (drained.place now s.buffer.drain.1)).2.map f) := by
        rw [map_place, map_placed]
      refine Prod.ext ?_ ?_
      · simp only [List.map_append]
        exact congrArg (fun left => left.1 ++ [.review generation]) same
      · exact congrArg (fun left => left.2) same
  · rfl

/-- An action does the same with other callbacks. -/
theorem map_perform (env : Surroundings) (action : Action κ) :
    (s.map f).perform env (action.map f) =
      ((s.perform env action).1.map (.map f), (s.perform env action).2.map f) := by
  cases action with
  | enlist r => exact map_enlist f s r
  | connect worker => exact map_connect f s worker
  | withdraw worker e =>
      simp only [perform, Action.map, map, RequestQueue.map_erase]
      rfl
  | cancel worker => exact map_cancel f s worker
  | kill worker => exact map_kill f s worker
  | startLoop =>
      simp only [perform, Action.map, ensureLoop]
      rw [loops_map]
      split <;> rfl
  | accept o =>
      simp only [perform, Action.map, accept]
      rw [buffer_map]
      split <;> rfl
  | drain => rfl
  | place batch =>
      simp only [perform, Action.map]
      split
      · rfl
      · rw [map_place, map_placed]
  | apply status => exact map_apply f s status
  | turn generation => exact map_turn f s env.now generation
  | supervise =>
      simp only [perform, Action.map, map_supervise]
      rfl
  | inspect =>
      simp only [perform, Action.map, map_supervise]
      rfl
  | release =>
      simp only [perform, Action.map, map, List.map_map]
      rfl
  | review generation =>
      simp only [perform, Action.map]
      rw [show (s.map f).isCurrent generation = s.isCurrent generation from rfl]
      split <;> rfl
  | _ => rfl

end Scheduler

/-! ## Runs and histories -/

theorem tells_map (f : κ → ν) (agenda : List (Action κ)) :
    tells (agenda.map (.map f)) = (tells agenda).map (.map f) := by
  induction agenda with
  | nil => rfl
  | cons action rest ih =>
      have first : tells [action.map f] = (tells [action]).map (.map f) := by
        cases action <;> rfl
      rw [List.map_cons, ← List.singleton_append, tells_append, ih, first, ← List.map_append,
        ← tells_append, List.singleton_append]

variable [ClusterDriver δ]

theorem Scheduler.created_map (f : κ → ν) (env : Surroundings) (s : Scheduler δ κ)
    (action : Action κ) :
    (s.map f).created env (action.map f) = (s.created env action).map (.map f) := by
  have adds : tells ((s.map f).perform env (action.map f)).1 ++
        ((s.map f).perform env (action.map f)).2.deferred.drop (s.map f).deferred.length =
      (tells (s.perform env action).1 ++
        (s.perform env action).2.deferred.drop s.deferred.length).map (.map f) := by
    rw [map_perform, tells_map, List.map_append, List.map_drop, deferred_map, List.length_map]
    rfl
  cases action with
  | release => rfl
  | _ => exact adds

namespace Chronicle

theorem map_foldl_step_of (f : κ → ν) {env : Surroundings} {depth : Nat}
    (single : ∀ (c : Chronicle δ κ) (action : Action κ),
      step env depth (c.map f) (action.map f) = (step env depth c action).map f)
    (agenda : List (Action κ)) (c : Chronicle δ κ) :
    (agenda.map (.map f)).foldl (step env depth) (c.map f) =
      (agenda.foldl (step env depth) c).map f := by
  induction agenda generalizing c with
  | nil => rfl
  | cons first rest ih => rw [List.map_cons, List.foldl_cons, List.foldl_cons, single, ih]

theorem map_step (f : κ → ν) (env : Surroundings) (depth : Nat) (c : Chronicle δ κ)
    (action : Action κ) :
    step env depth (c.map f) (action.map f) = (step env depth c action).map f := by
  induction depth generalizing c action with
  | zero =>
      cases action with
      | tell notice => simp [step, map, Action.map]
      | _ => rfl
  | succ depth ih =>
      have acts : ((c.map f).scheduler.perform env (action.map f)).1.foldl (step env depth)
            { c.map f with
              scheduler := ((c.map f).scheduler.perform env (action.map f)).2
              created := (c.map f).created ++ (c.map f).scheduler.created env (action.map f) } =
          ((c.scheduler.perform env action).1.foldl (step env depth)
            { c with
              scheduler := (c.scheduler.perform env action).2
              created := c.created ++ c.scheduler.created env action }).map f := by
        rw [← map_foldl_step_of f ih, show (c.map f).scheduler = c.scheduler.map f from rfl,
          Scheduler.map_perform, Scheduler.created_map]
        simp only [map, List.map_append]
      cases action with
      | tell notice => simp [step, map, Action.map]
      | answer => rfl
      | _ => exact acts

end Chronicle

theorem Scheduler.map_chronicle (f : κ → ν) (env : Surroundings) (s : Scheduler δ κ)
    (o : Operation κ) : (s.map f).chronicle env (o.map f) = (s.chronicle env o).map f := by
  have agenda : (o.map f).agenda (s.map f).settings = (o.agenda s.settings).map (.map f) := by
    rw [settings_map]
    cases o with
    | offers delivered =>
        simp only [Operation.map, Operation.agenda, List.map_append, List.map_map]
        cases s.settings.multiThreaded <;> rfl
    | _ => rfl
  rw [chronicle, agenda]
  exact Chronicle.map_foldl_step_of f (Chronicle.map_step f env depth) _ { scheduler := s }

namespace History

theorem map_ask (f : κ → ν) (h : History δ κ) (d : Demand κ) :
    (h.map f).ask (d.map f) = (h.ask d).map f := by
  have course := h.scheduler.map_chronicle f d.env d.operation
  simp only [ask, ← Scheduler.toRun_chronicle]
  rw [show (h.map f).scheduler = h.scheduler.map f from rfl,
    show (d.map f).operation = d.operation.map f from rfl, show (d.map f).env = d.env from rfl,
    course]
  simp only [map, Chronicle.map, List.map_append]

/-- A scheduler does the same with other callbacks. -/
theorem after_map (f : κ → ν) (s : Scheduler δ κ) (demands : List (Demand κ)) :
    (s.map f).after (demands.map (.map f)) = (s.after demands).map f := by
  induction demands using List.reverseRecOn with
  | nil => rfl
  | append_singleton demands d ih =>
      rw [List.map_append, List.map_singleton, Scheduler.after_concat, ih, map_ask,
        Scheduler.after_concat]

end History

end OfferDispatch
