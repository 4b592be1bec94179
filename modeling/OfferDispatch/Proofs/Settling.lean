import OfferDispatch.Cluster.Recorder
import OfferDispatch.Proofs.Lookup

/-!
# What supervision decides

A look at a scheduler settles three things at once: without nodes, the tasks that are still live are
given up; if then nothing is left to do, the session ends; and the caller is told which it was. The
counts that decide are taken after tasks have been given up, so without nodes only requests that
wait keep a session.

Each outcome is said in full: what has changed, and that the rest has not. Once supervision has
settled a scheduler, there is nothing more to settle until something else happens.
-/

namespace OfferDispatch

variable {δ κ : Type}

/-- What is decided by another look at a scheduler of which this has been decided. -/
def Decision.again : Decision → Decision
  | .retained pending active nodes => .retained pending active nodes
  | .tornDown | .alreadyStopped => .alreadyStopped

namespace Tracker

/-- Nothing is left to be given up a second time. -/
@[simp] theorem clear_clear (t : Tracker κ) : t.clear.clear = t.clear := rfl

@[simp] theorem clearNotices_clear (t : Tracker κ) : t.clear.clearNotices = [] := rfl

/-- A live task that is given up is on record as lost. -/
theorem exists_ending_clear {t : Tracker κ} {l : LiveTask κ} (live : l ∈ t.live) :
    ∃ m ∈ t.live, m.id = l.id ∧ t.clear.ending? l.id = some (lostEnding m) := by
  rw [ending?_clear]
  cases found : t.live.reverse.find? fun m => m.id == l.id with
  | none =>
      have other := List.find?_eq_none.1 found l (List.mem_reverse.2 live)
      exact absurd (beq_self_eq_true l.id) other
  | some m =>
      have same : m.id = l.id := by simpa using List.find?_some found
      exact ⟨m, List.mem_reverse.1 (List.mem_of_find?_eq_some found), same, rfl⟩

/-- Nothing else goes on record. -/
theorem ending?_clear_of_not_contains {t : Tracker κ} {task : TaskId}
    (other : t.contains task = false) : t.clear.ending? task = t.ending? task := by
  have none : (t.live.reverse.find? fun l => l.id == task) = none := by
    rw [List.find?_eq_none]
    intro l member
    exact List.any_eq_false.1 other l (List.mem_reverse.1 member)
  rw [ending?_clear, none, Option.map_none, Option.none_or]

end Tracker

namespace Scheduler

/-- `u` is `s` after its live tasks have been given up: none is live, each of them is on record as
lost, and the host is to be told once of each that it has failed. -/
structure GivesUp (s u : Scheduler δ κ) : Prop where
  live : u.tracker.live = []
  lost : ∀ l ∈ s.tracker.live, ∃ m ∈ s.tracker.live, m.id = l.id ∧
    u.tracker.ending? l.id = some (Tracker.lostEnding m)
  others : ∀ task, s.tracker.contains task = false →
    u.tracker.ending? task = s.tracker.ending? task
  deferred : u.deferred = s.deferred ++ s.tracker.live.map (·.notice .failed)
  rest : u = { s with tracker := u.tracker, deferred := u.deferred }

theorem givesUp_giveUp (s : Scheduler δ κ) : s.GivesUp (s.giveUp 0) where
  live := rfl
  lost := fun _ => Tracker.exists_ending_clear
  others := fun _ => Tracker.ending?_clear_of_not_contains
  deferred := rfl
  rest := rfl

theorem giveUp_of_ne {nodes : Nat} (some : nodes ≠ 0) (s : Scheduler δ κ) : s.giveUp nodes = s :=
  if_neg some

/-- Whoever has been given up is not given up again. -/
@[simp] theorem giveUp_giveUp (nodes : Nat) (s : Scheduler δ κ) :
    (s.giveUp nodes).giveUp nodes = s.giveUp nodes := by
  by_cases none : nodes = 0
  · subst none
    simp [giveUp]
  · rw [giveUp_of_ne none, giveUp_of_ne none]

@[simp] theorem pending_giveUp (nodes : Nat) (s : Scheduler δ κ) :
    (s.giveUp nodes).pending = s.pending :=
  congrArg RequestQueue.size (requests_giveUp nodes s)

variable [ClusterDriver δ]

/-- `t` is `u` after its session has been stopped: with one call, whatever the answer, and the
records of ended tasks and the labels that have found no offer are forgotten. -/
structure Ends (u t : Scheduler δ κ) : Prop where
  running : t.session.running = false
  log : ∃ answer, t.log = u.log ++ [.call .stop answer]
  retired : t.tracker.retired = []
  live : t.tracker.live = u.tracker.live
  unmatched : t.unmatched = []
  generation : t.generation = u.generation + 1
  loops : ∀ l ∈ t.loops, l.held = false
  rest : t = { u with
    session := t.session, tracker := t.tracker, unmatched := t.unmatched,
    generation := t.generation, loops := t.loops }

theorem ends_stop {s : Scheduler δ κ} (running : s.session.running = true) : s.Ends s.stop := by
  have stopped : s.session.stop = { (s.session.call .stop).2 with running := false } :=
    if_pos running
  have said : s.stop.log = s.log ++ [.call .stop (s.session.call .stop).1] := by
    rw [log, stop, stopped]
    exact Link.log_call s.session.link .stop
  refine ⟨?_, ⟨_, said⟩, rfl, rfl, rfl, rfl, ?_, rfl⟩
  · rw [stop, stopped]
  · intro l member
    obtain ⟨held, -, rfl⟩ := List.mem_map.1 member
    rfl

/-- A session that does not run is left as it is. -/
theorem supervise_of_stopped {s : Scheduler δ κ} (stopped : s.session.running = false)
    (nodes : Nat) : OfferDispatch.supervise nodes s = (.alreadyStopped, s) :=
  if_neg (Bool.eq_false_iff.1 stopped)

/-- What comes of supervising a session that runs. -/
theorem supervise_of_running {s : Scheduler δ κ} (running : s.session.running = true)
    (nodes : Nat) :
    OfferDispatch.supervise nodes s =
      if s.pending = 0 ∧ nodes = 0 then (.tornDown, (s.giveUp nodes).stop)
      else (.retained s.pending (s.giveUp nodes).active nodes, s.giveUp nodes) := by
  have settled : OfferDispatch.supervise nodes s =
      ((s.settle nodes).1.decision, (s.settle nodes).2) := if_pos running
  rw [settled, settle_eq]
  by_cases none : nodes = 0
  · subst none
    by_cases idle : s.pending = 0
    · simp [settle, Settled.decision, idle, Tracker.size, Tracker.clear]
    · simp [settle, Settled.decision, idle, giveUp, active]
  · simp [settle, Settled.decision, none, giveUp, active]

/-- A session that nothing is left of has been stopped; one that goes on is as it was, apart from
its live tasks if there are no nodes. -/
structure Settles (nodes : Nat) (s : Scheduler δ κ) (d : Decision) (t : Scheduler δ κ) : Prop where
  tornDown_iff : d = .tornDown ↔ s.pending = 0 ∧ nodes = 0
  stopped_iff : t.session.running = false ↔ s.pending = 0 ∧ nodes = 0
  settled : ∃ u : Scheduler δ κ, (nodes = 0 → s.GivesUp u) ∧ (nodes ≠ 0 → u = s) ∧
    if s.pending = 0 ∧ nodes = 0 then u.Ends t
    else t = u ∧ d = .retained s.pending t.active nodes

theorem settles_supervise {s : Scheduler δ κ} (running : s.session.running = true) (nodes : Nat) :
    s.Settles nodes (OfferDispatch.supervise nodes s).1 (OfferDispatch.supervise nodes s).2 := by
  have runs : (s.giveUp nodes).session.running = true := by
    rw [session_giveUp]
    exact running
  have given : nodes = 0 → s.GivesUp (s.giveUp nodes) := by
    rintro rfl
    exact s.givesUp_giveUp
  have kept : nodes ≠ 0 → s.giveUp nodes = s := fun some => giveUp_of_ne some s
  rw [supervise_of_running running]
  by_cases idle : s.pending = 0 ∧ nodes = 0
  · have ended := ends_stop runs
    rw [if_pos idle]
    refine ⟨iff_of_true rfl idle, iff_of_true ended.running idle, s.giveUp nodes, given, kept, ?_⟩
    rw [if_pos idle]
    exact ended
  · rw [if_neg idle]
    refine ⟨iff_of_false nofun idle, iff_of_false (Bool.eq_false_iff.not_left.2 runs) idle,
      s.giveUp nodes, given, kept, ?_⟩
    rw [if_neg idle]
    exact ⟨rfl, rfl⟩

/-- Another look finds nothing to change. -/
theorem supervise_again (nodes : Nat) (s : Scheduler δ κ) :
    OfferDispatch.supervise nodes (OfferDispatch.supervise nodes s).2 =
      ((OfferDispatch.supervise nodes s).1.again, (OfferDispatch.supervise nodes s).2) := by
  by_cases running : s.session.running = true
  · have runs : (s.giveUp nodes).session.running = true := by
      rw [session_giveUp]
      exact running
    rw [supervise_of_running running]
    by_cases idle : s.pending = 0 ∧ nodes = 0
    · rw [if_pos idle]
      exact supervise_of_stopped (ends_stop runs).running nodes
    · rw [if_neg idle, supervise_of_running runs, pending_giveUp, if_neg idle, giveUp_giveUp]
      rfl
  · have stopped := Bool.eq_false_iff.2 running
    rw [supervise_of_stopped stopped]
    exact supervise_of_stopped stopped nodes

theorem affinity_supervise (nodes : Nat) (s : Scheduler δ κ) :
    (OfferDispatch.supervise nodes s).2.affinity = s.affinity := by
  have given : (s.giveUp nodes).affinity = s.affinity := by
    rw [giveUp]
    split <;> rfl
  rw [supervise_eq]
  split
  · split <;> exact given
  · rfl

/-- What one look at a scheduler decides and does, whatever its state. A session that does not run
is left as it is. Of one that does, the live tasks are given up if there are no nodes, and it is
stopped exactly if then no request waits either. Neither the requests nor the remembered agents
change, and another look changes nothing at all. -/
theorem supervise_decides (nodes : Nat) (s : Scheduler δ κ) :
    let d := (OfferDispatch.supervise nodes s).1
    let t := (OfferDispatch.supervise nodes s).2
    (s.session.running = false → d = .alreadyStopped ∧ t = s) ∧
      (s.session.running = true → s.Settles nodes d t) ∧
      t.requests = s.requests ∧ t.affinity = s.affinity ∧
      OfferDispatch.supervise nodes t = (d.again, t) := by
  intro d t
  refine ⟨?_, fun running => settles_supervise running nodes, requests_supervise nodes s,
    affinity_supervise nodes s, supervise_again nodes s⟩
  intro stopped
  have left := supervise_of_stopped stopped nodes
  exact ⟨congrArg Prod.fst left, congrArg Prod.snd left⟩

end Scheduler

namespace Plain

/-- A task is live, and a request waits. -/
def engaged : Scheduler Recorder Unit :=
  (scheduler.after [⟨moment, .request (worker "w") ()⟩, ⟨moment, .offers [offer "o"]⟩,
    ⟨moment, .request (worker "v") ()⟩]).scheduler

-- Without nodes the task is given up, and the session goes on for the request.
example : (OfferDispatch.supervise 0 engaged).1 = .retained 1 0 0 ∧
    (OfferDispatch.supervise 3 engaged).1 = .retained 1 1 3 ∧
    (OfferDispatch.supervise 0 (engaged.run moment (.cancel ⟨"v"⟩)).scheduler).1 = .tornDown := by
  decide +kernel

end Plain

end OfferDispatch
