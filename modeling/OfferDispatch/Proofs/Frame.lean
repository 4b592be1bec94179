import OfferDispatch.Scheduler.Action

/-!
# What actions leave alone

Most of what the scheduler does touches a small part of its state. Speaking to the cluster changes
nothing but the link, and of the calls on a link only those that launch a task count as launches.
Placing a batch changes what concerns requests and tasks, but neither what is deferred nor whether
the session runs. Settling and stopping change neither the requests nor what was launched. All
actions but placing, settling and stopping are minor: they try no launch, and a session that runs
goes on.
-/

namespace OfferDispatch

variable {δ κ : Type}

/-! ## Launches on a link -/

/-- The task that was to be launched, and the answer, if the exchange is about a launch. -/
def Exchange.launch? : Exchange → Option (TaskId × Answer)
  | .call (.launch _ task) answer => some (task.id, answer)
  | _ => none

namespace Link

/-- The calls to launch a task, the oldest first, with their answers. -/
def launches (l : Link δ) : List (TaskId × Answer) := l.log.filterMap Exchange.launch?

/-- The tasks whose launch succeeded, the oldest first. -/
def launched (l : Link δ) : List TaskId :=
  l.launches.filterMap fun call => match call.2 with
    | .ok _ => some call.1
    | .error _ => none

variable [ClusterDriver δ]

theorem launches_call (l : Link δ) (c : Call) :
    (l.call c).2.launches = l.launches ++ (Exchange.call c (l.call c).1).launch?.toList := by
  cases h : (Exchange.call c (l.call c).1).launch? <;> simp [launches, h]

@[simp] theorem launches_call_launch (l : Link δ) (offer : OfferId) (task : Task Float) :
    (l.call (.launch offer task)).2.launches =
      l.launches ++ [(task.id, (l.call (.launch offer task)).1)] :=
  launches_call l _

end Link

/-! ## Speaking without launching -/

/-- Something may have been said since, but no launch was tried. -/
def SaysNoLaunch (before after : List Exchange) : Prop :=
  ∃ said, after = before ++ said ∧ ∀ e ∈ said, e.launch? = none

namespace SaysNoLaunch

variable {first second third : List Exchange}

theorem refl (log : List Exchange) : SaysNoLaunch log log := ⟨[], by simp⟩

theorem trans (left : SaysNoLaunch first second) (right : SaysNoLaunch second third) :
    SaysNoLaunch first third := by
  obtain ⟨earlier, rfl, silent⟩ := left
  obtain ⟨later, rfl, still⟩ := right
  exact ⟨earlier ++ later, List.append_assoc .., List.forall_mem_append.2 ⟨silent, still⟩⟩

theorem single {e : Exchange} (other : e.launch? = none) : SaysNoLaunch first (first ++ [e]) :=
  ⟨[e], rfl, by simpa using other⟩

theorem launches_eq {k l : Link δ} (h : SaysNoLaunch k.log l.log) : l.launches = k.launches := by
  obtain ⟨said, log, silent⟩ := h
  rw [Link.launches, log, List.filterMap_append, List.filterMap_eq_nil_iff.2 silent,
    List.append_nil, Link.launches]

end SaysNoLaunch

namespace Session

variable [ClusterDriver δ]

@[simp] theorem launches_call (s : Session δ) (c : Call) :
    (s.call c).2.link.launches =
      s.link.launches ++ (Exchange.call c (s.call c).1).launch?.toList :=
  Link.launches_call s.link c

/-- Registering is never a launch, however often it is tried. -/
theorem saysNoLaunch_register (info : FrameworkInfo) (further attempt : Nat) (link : Link δ) :
    SaysNoLaunch link.log (register info further attempt link).2.log := by
  induction further generalizing attempt link with
  | zero =>
      rw [register, Link.log_call]
      exact .single rfl
  | succ further ih =>
      have called : SaysNoLaunch link.log (link.call (.register info)).2.log := by
        rw [Link.log_call]
        exact .single rfl
      rw [register]
      split
      · next answered =>
          rw [answered] at called
          exact called
      · next refused answered =>
          rw [answered] at called
          have paused : SaysNoLaunch link.log (Link.pause _ attempt).log :=
            called.trans (.single (e := .pause attempt) rfl)
          exact paused.trans (ih (attempt + 1) _)

theorem saysNoLaunch_start (s : Session δ) : SaysNoLaunch s.link.log s.start.2.link.log := by
  rw [start]
  split
  · exact .refl _
  · simp only
    split <;> exact saysNoLaunch_register ..

theorem saysNoLaunch_stop (s : Session δ) : SaysNoLaunch s.link.log s.stop.link.log := by
  rw [stop]
  split
  · exact .single rfl
  · exact .refl _

theorem saysNoLaunch_revive (s : Session δ) : SaysNoLaunch s.link.log s.revive.link.log := by
  rw [revive]
  split
  · exact .single rfl
  · exact .refl _

@[simp] theorem launches_start (s : Session δ) : s.start.2.link.launches = s.link.launches :=
  s.saysNoLaunch_start.launches_eq

@[simp] theorem launches_stop (s : Session δ) : s.stop.link.launches = s.link.launches :=
  s.saysNoLaunch_stop.launches_eq

@[simp] theorem launches_revive (s : Session δ) : s.revive.link.launches = s.link.launches :=
  s.saysNoLaunch_revive.launches_eq

end Session

namespace Scheduler

def launches (s : Scheduler δ κ) : List (TaskId × Answer) := s.session.link.launches

def launched (s : Scheduler δ κ) : List TaskId := s.session.link.launched

def log (s : Scheduler δ κ) : List Exchange := s.session.link.log

theorem mem_launched_iff {s : Scheduler δ κ} {worker : TaskId} :
    worker ∈ s.launched ↔
      ∃ offer task, .call (.launch offer task) (.ok ()) ∈ s.log ∧ task.id = worker := by
  simp only [launched, Link.launched, Link.launches, List.mem_filterMap, log]
  constructor
  · rintro ⟨⟨id, answer⟩, ⟨e, member, launch⟩, ok⟩
    cases e with
    | pause => cases launch
    | call c given =>
        cases c with
        | launch offer task =>
            cases launch
            cases answer with
            | ok =>
                cases ok
                exact ⟨offer, task, member, rfl⟩
            | error => cases ok
        | _ => cases launch
  · rintro ⟨offer, task, member, rfl⟩
    exact ⟨(task.id, .ok ()), ⟨_, member, rfl⟩, rfl⟩

theorem launched_eq_of_launches {s t : Scheduler δ κ} (h : t.launches = s.launches) :
    t.launched = s.launched := by
  rw [launched, launched, Link.launched, Link.launched]
  rw [show t.session.link.launches = s.session.link.launches from h]

/-! ## Placing -/

/-- `t` differs from `s` at most in what placing a batch can change. -/
def Placed (s t : Scheduler δ κ) : Prop :=
  ∃ requests tracker affinity unmatched link,
    t = { s with
      requests := requests
      tracker := tracker
      affinity := affinity
      unmatched := unmatched
      session := { s.session with link := link } }

namespace Placed

variable {s t u : Scheduler δ κ}

theorem refl (s : Scheduler δ κ) : Placed s s := ⟨_, _, _, _, _, rfl⟩

theorem trans (first : Placed s t) (second : Placed t u) : Placed s u := by
  obtain ⟨_, _, _, _, _, rfl⟩ := first
  obtain ⟨_, _, _, _, _, rfl⟩ := second
  exact ⟨_, _, _, _, _, rfl⟩

theorem settings_eq (h : Placed s t) : t.settings = s.settings := by
  obtain ⟨_, _, _, _, _, rfl⟩ := h
  rfl

theorem deferred_eq (h : Placed s t) : t.deferred = s.deferred := by
  obtain ⟨_, _, _, _, _, rfl⟩ := h
  rfl

theorem generation_eq (h : Placed s t) : t.generation = s.generation := by
  obtain ⟨_, _, _, _, _, rfl⟩ := h
  rfl

theorem buffer_eq (h : Placed s t) : t.buffer = s.buffer := by
  obtain ⟨_, _, _, _, _, rfl⟩ := h
  rfl

theorem running_eq (h : Placed s t) : t.session.running = s.session.running := by
  obtain ⟨_, _, _, _, _, rfl⟩ := h
  rfl

end Placed

variable [ClusterDriver δ]

theorem placed_launch (p : Placement δ κ) (o : Offer Float) (r : Request κ)
    (rest : RequestQueue κ) : Placed p.scheduler (p.launch o r rest).scheduler := by
  simp only [Placement.launch]
  split <;> exact ⟨_, _, _, _, _, rfl⟩

theorem placed_offer (now : Instant) (p : Placement δ κ) (o : Offer Float) :
    Placed p.scheduler (p.offer now o).scheduler := by
  simp only [Placement.offer]
  split
  · exact ⟨_, _, _, _, _, rfl⟩
  split
  · split
    · exact placed_launch p o _ _
    · exact .refl _
  · exact .refl _

theorem placed_foldl_offer (now : Instant) (batch : List (Offer Float)) (p : Placement δ κ) :
    Placed p.scheduler (batch.foldl (Placement.offer now) p).scheduler := by
  induction batch generalizing p with
  | nil => exact .refl _
  | cons o rest ih => exact (placed_offer now p o).trans (ih _)

theorem placed_place (now : Instant) (s : Scheduler δ κ) (batch : List (Offer Float)) :
    Placed s (s.place now batch).scheduler :=
  (placed_foldl_offer now _ ⟨s, [], []⟩).trans ⟨_, _, _, _, _, rfl⟩

/-! ## Stopping and settling -/

@[simp] theorem launches_stop (s : Scheduler δ κ) : s.stop.launches = s.launches :=
  Session.launches_stop s.session

/-- The scheduler after its live tasks have been given up, which are only if there are no nodes. -/
def giveUp (nodes : Nat) (s : Scheduler δ κ) : Scheduler δ κ :=
  if nodes = 0 then
    { s with tracker := s.tracker.clear, deferred := s.deferred ++ s.tracker.clearNotices }
  else s

/-- Once tasks have been given up for want of nodes, only waiting requests keep the session. -/
theorem settle_eq (nodes : Nat) (s : Scheduler δ κ) :
    (s.settle nodes).2 =
      if s.pending = 0 ∧ nodes = 0 then (s.giveUp nodes).stop else s.giveUp nodes := by
  by_cases none : nodes = 0
  · have cleared : s.tracker.clear.size = 0 := rfl
    by_cases idle : s.pending = 0 <;> simp [settle, giveUp, none, cleared, idle]
  · simp [settle, giveUp, none]

omit [ClusterDriver δ] in
@[simp] theorem requests_giveUp (nodes : Nat) (s : Scheduler δ κ) :
    (s.giveUp nodes).requests = s.requests := by
  rw [giveUp]
  split <;> rfl

omit [ClusterDriver δ] in
@[simp] theorem session_giveUp (nodes : Nat) (s : Scheduler δ κ) :
    (s.giveUp nodes).session = s.session := by
  rw [giveUp]
  split <;> rfl

theorem supervise_eq (nodes : Nat) (s : Scheduler δ κ) :
    (OfferDispatch.supervise nodes s).2 =
      if s.session.running then
        if s.pending = 0 ∧ nodes = 0 then (s.giveUp nodes).stop else s.giveUp nodes
      else s := by
  simp only [OfferDispatch.supervise, Supervised.isRunning, Supervised.settle]
  rw [← settle_eq]
  split <;> rfl

@[simp] theorem requests_supervise (nodes : Nat) (s : Scheduler δ κ) :
    (OfferDispatch.supervise nodes s).2.requests = s.requests := by
  rw [supervise_eq]
  split
  · split
    · exact requests_giveUp nodes s
    · exact requests_giveUp nodes s
  · rfl

@[simp] theorem launches_supervise (nodes : Nat) (s : Scheduler δ κ) :
    (OfferDispatch.supervise nodes s).2.launches = s.launches := by
  rw [supervise_eq]
  split
  · split
    · rw [launches_stop, launches, session_giveUp, launches]
    · rw [launches, session_giveUp, launches]
  · rfl

end Scheduler

/-! ## Quiet actions -/

/-- Does the action only speak to the cluster, or deal with the buffer and the loops? -/
def Action.isQuiet : Action κ → Bool
  | .connect _ | .kill _ | .startLoop | .accept _ | .drain | .decline .. | .rescind _ | .assign _
  | .review _ | .tell _ | .answer _ => true
  | _ => false

namespace Scheduler

/-- `t` agrees with `s` in all that concerns requests, tasks, launches and notices. -/
structure Quiet (s t : Scheduler δ κ) : Prop where
  requests : t.requests = s.requests
  tracker : t.tracker = s.tracker
  deferred : t.deferred = s.deferred
  generation : t.generation = s.generation
  launches : t.launches = s.launches

theorem Quiet.refl (s : Scheduler δ κ) : Quiet s s := ⟨rfl, rfl, rfl, rfl, rfl⟩

theorem Quiet.symm {s t : Scheduler δ κ} (h : Quiet s t) : Quiet t s :=
  ⟨h.requests.symm, h.tracker.symm, h.deferred.symm, h.generation.symm, h.launches.symm⟩

theorem Quiet.trans {s t u : Scheduler δ κ} (first : Quiet s t) (second : Quiet t u) :
    Quiet s u where
  requests := second.requests.trans first.requests
  tracker := second.tracker.trans first.tracker
  deferred := second.deferred.trans first.deferred
  generation := second.generation.trans first.generation
  launches := second.launches.trans first.launches

variable [ClusterDriver δ]

theorem quiet_call {s : Scheduler δ κ} {c : Call} {session : Session δ}
    (other : ∀ answer, (Exchange.call c answer).launch? = none)
    (h : session = (s.session.call c).2) : Quiet s { s with session := session } := by
  subst h
  exact ⟨rfl, rfl, rfl, rfl, by simp [launches, other]⟩

theorem quiet_perform (env : Surroundings) (s : Scheduler δ κ) {action : Action κ}
    (quiet : action.isQuiet = true) : Quiet s (s.perform env action).2 := by
  cases action with
  | connect worker =>
      simp only [perform, connect]
      split
      · exact ⟨rfl, rfl, rfl, rfl, by simp [launches]⟩
      · split <;> exact ⟨rfl, rfl, rfl, rfl, by simp [launches]⟩
  | kill worker => exact quiet_call (fun _ => rfl) rfl
  | decline offer refuse => exact quiet_call (fun _ => rfl) rfl
  | startLoop =>
      simp only [perform, ensureLoop]
      split <;> exact ⟨rfl, rfl, rfl, rfl, rfl⟩
  | accept o =>
      simp only [perform, accept]
      split
      · exact ⟨rfl, rfl, rfl, rfl, rfl⟩
      · exact ⟨rfl, rfl, rfl, rfl, by simp [launches, Exchange.launch?]⟩
  | review generation =>
      simp only [perform]
      split
      · exact .refl _
      · exact ⟨rfl, rfl, rfl, rfl, rfl⟩
  | drain | rescind | assign | tell | answer => exact ⟨rfl, rfl, rfl, rfl, rfl⟩
  | _ => cases quiet

end Scheduler

/-! ## Minor actions -/

/-- Does the action neither place offers nor stop the session? -/
def Action.isMinor : Action κ → Bool
  | .place _ | .turn _ | .stop | .supervise | .inspect => false
  | _ => true

/-- Does the action put an offer into the buffer, or take offers out of it to leave them to others?
-/
def Action.isBuffering : Action κ → Bool
  | .accept _ | .drain | .rescind _ => true
  | _ => false

/-- Does the action put an offer into the buffer, or take any out of it? -/
def Action.movesOffers : Action κ → Bool
  | .turn _ => true
  | action => action.isBuffering

namespace Scheduler

/-- `t` comes from `s` by an action that neither places offers nor stops the session: that may speak
to the cluster and start the session, but tries no launch. -/
structure Minor (s t : Scheduler δ κ) : Prop where
  settings : t.settings = s.settings
  generation : t.generation = s.generation
  running : s.session.running = true → t.session.running = true
  said : SaysNoLaunch s.log t.log

theorem Minor.of_session {s t : Scheduler δ κ} (settings : t.settings = s.settings)
    (generation : t.generation = s.generation) (session : t.session = s.session) : Minor s t where
  settings := settings
  generation := generation
  running := fun runs => session ▸ runs
  said := by
    rw [log, log, session]
    exact .refl _

variable [ClusterDriver δ]

theorem Minor.of_call {s t : Scheduler δ κ} {c : Call} (settings : t.settings = s.settings)
    (generation : t.generation = s.generation) (session : t.session = (s.session.call c).2)
    (other : ∀ answer, (Exchange.call c answer).launch? = none) : Minor s t where
  settings := settings
  generation := generation
  running := by
    rw [session]
    exact id
  said := by
    rw [log, log, session]
    exact .single (other _)

theorem minor_perform (env : Surroundings) (s : Scheduler δ κ) {action : Action κ}
    (minor : action.isMinor = true) : Minor s (s.perform env action).2 := by
  cases action with
  | enlist r =>
      simp only [perform, enlist]
      split
      · split <;> exact .of_session rfl rfl rfl
      · exact .of_session rfl rfl rfl
  | connect worker =>
      simp only [perform, connect]
      split
      · next runs =>
          have kept : s.session.revive.running = true := by
            rw [Session.revive, if_pos runs]
            exact runs
          exact ⟨rfl, rfl, fun _ => kept, Session.saysNoLaunch_revive s.session⟩
      · next stopped =>
          have said := Session.saysNoLaunch_start s.session
          split <;> exact ⟨rfl, rfl, fun runs => absurd runs stopped, said⟩
  | cancel worker =>
      simp only [perform, cancel]
      split
      · exact .of_session rfl rfl rfl
      · split <;> exact .of_session rfl rfl rfl
  | kill worker => exact .of_call (c := .kill worker) rfl rfl rfl fun _ => rfl
  | decline offer refuse => exact .of_call (c := .decline offer refuse) rfl rfl rfl fun _ => rfl
  | accept o =>
      simp only [perform, accept]
      split
      · exact .of_session rfl rfl rfl
      · exact .of_call (c := .decline o.id shortDecline) rfl rfl rfl fun _ => rfl
  | startLoop =>
      simp only [perform, ensureLoop]
      split <;> exact .of_session rfl rfl rfl
  | review generation =>
      simp only [perform]
      split <;> exact .of_session rfl rfl rfl
  | apply status =>
      simp only [perform, apply]
      split
      · exact .of_session rfl rfl rfl
      · split <;> exact .of_session rfl rfl rfl
  | assign id => exact ⟨rfl, rfl, fun runs => runs, .refl _⟩
  | withdraw | drain | rescind | release | tell | answer => exact .of_session rfl rfl rfl
  | _ => cases minor

@[simp] theorem buffer_supervise (nodes : Nat) (s : Scheduler δ κ) :
    (OfferDispatch.supervise nodes s).2.buffer = s.buffer := by
  have given : (s.giveUp nodes).buffer = s.buffer := by
    rw [giveUp]
    split <;> rfl
  rw [supervise_eq]
  split
  · split <;> exact given
  · rfl

/-- Whoever moves no offers leaves the buffer alone, also when offers are placed. -/
theorem buffer_perform (env : Surroundings) (s : Scheduler δ κ) {action : Action κ}
    (other : action.movesOffers = false) : (s.perform env action).2.buffer = s.buffer := by
  cases action with
  | enlist r =>
      simp only [perform, enlist]
      split
      · split <;> rfl
      · rfl
  | connect worker =>
      simp only [perform, connect]
      split
      · rfl
      · split <;> rfl
  | cancel worker =>
      simp only [perform, cancel]
      split
      · rfl
      · split <;> rfl
  | startLoop =>
      simp only [perform, ensureLoop]
      split <;> rfl
  | review generation =>
      simp only [perform]
      split <;> rfl
  | apply status =>
      simp only [perform, apply]
      split
      · rfl
      · split <;> rfl
  | place batch =>
      simp only [perform]
      split
      · rfl
      · exact (placed_place env.now s batch).buffer_eq
  | supervise | inspect => exact buffer_supervise env.nodes s
  | kill | decline | assign | withdraw | release | stop | tell | answer => rfl
  | accept | drain | rescind | turn => cases other

theorem saysNoLaunch_supervise (nodes : Nat) (s : Scheduler δ κ) :
    SaysNoLaunch s.log (OfferDispatch.supervise nodes s).2.log := by
  have given : (s.giveUp nodes).log = s.log := by
    rw [log, session_giveUp, log]
  rw [supervise_eq]
  split
  · split
    · rw [← given]
      exact Session.saysNoLaunch_stop (s.giveUp nodes).session
    · rw [given]
      exact .refl _
  · exact .refl _

/-- No action changes the settings. -/
@[simp] theorem settings_perform (env : Surroundings) (s : Scheduler δ κ) (action : Action κ) :
    (s.perform env action).2.settings = s.settings := by
  have supervised : (OfferDispatch.supervise env.nodes s).2.settings = s.settings := by
    have given : (s.giveUp env.nodes).settings = s.settings := by
      rw [giveUp]
      split <;> rfl
    rw [supervise_eq]
    split
    · split <;> exact given
    · rfl
  by_cases minor : action.isMinor = true
  · exact (minor_perform env s minor).settings
  cases action with
  | stop => rfl
  | supervise | inspect => exact supervised
  | place batch =>
      simp only [perform]
      split
      · rfl
      · exact (placed_place env.now s batch).settings_eq
  | turn generation =>
      simp only [perform, turn]
      split
      · split
        · rfl
        · exact (placed_place env.now { s with buffer := s.buffer.drain.2 } _).settings_eq
      · rfl
  | _ => exact absurd rfl minor

/-! ## Deferred notices -/

/-- Deferred notices wait until they are released: every other action only adds to them. -/
theorem deferred_prefix_perform (env : Surroundings) (s : Scheduler δ κ) {action : Action κ}
    (other : action ≠ .release) : s.deferred <+: (s.perform env action).2.deferred := by
  have supervised : s.deferred <+: (OfferDispatch.supervise env.nodes s).2.deferred := by
    have given : s.deferred <+: (s.giveUp env.nodes).deferred := by
      rw [giveUp]
      split
      · exact List.prefix_append _ _
      · exact List.prefix_rfl
    rw [supervise_eq]
    split
    · split <;> exact given
    · exact List.prefix_rfl
  by_cases quiet : action.isQuiet = true
  · have same := (quiet_perform env s quiet).deferred
    exact same ▸ List.prefix_rfl
  cases action with
  | release => exact absurd rfl other
  | supervise | inspect => exact supervised
  | withdraw | stop => exact List.prefix_rfl
  | enlist r =>
      simp only [perform, enlist]
      split
      · split <;> exact List.prefix_rfl
      · exact List.prefix_rfl
  | cancel worker =>
      simp only [perform, cancel]
      split
      · exact List.prefix_rfl
      · split <;> exact List.prefix_rfl
  | place batch =>
      simp only [perform]
      split
      · exact List.prefix_rfl
      · simp only [placed, (placed_place env.now s batch).deferred_eq, List.prefix_rfl]
  | apply status =>
      simp only [perform, apply]
      split
      · exact List.prefix_rfl
      · split <;> exact List.prefix_rfl
  | turn generation =>
      simp only [perform, turn]
      split
      · split
        · exact List.prefix_rfl
        · simp only [placed, (placed_place env.now _ _).deferred_eq, List.prefix_rfl]
      · exact List.prefix_rfl
  | _ => exact absurd rfl quiet

end Scheduler

end OfferDispatch
