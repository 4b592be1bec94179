import OfferDispatch.Pipeline.Rehearsal
import OfferDispatch.Proofs.Agendas
import OfferDispatch.Proofs.Agents
import OfferDispatch.Proofs.Calls

/-!
# Scheduler and cluster in step

A scheduler and a simulated cluster keep separate books of the tasks there are: the scheduler has
its live tasks, the cluster has what is assigned to its agents. Nobody compares the two. They are
the same all the same: a launch writes into both or into neither, a status reaches the scheduler
only if the cluster has its task, and what ends a task ends it in both. Hence no status that is
passed on is for a task that the scheduler does not know, and supervision, which gives up what is
live if no agent is busy, has nothing to give up.

The books differ at one point only, between the moment in which the cluster takes note of a status
and the one in which the scheduler does.
-/

namespace OfferDispatch

variable {κ : Type}

namespace Scheduler

def cluster (s : Scheduler Cluster κ) : Cluster := s.session.link.driver

def withCluster (s : Scheduler Cluster κ) (c : Cluster) : Scheduler Cluster κ :=
  { s with session := { s.session with link := { s.session.link with driver := c } } }

@[simp] theorem cluster_withCluster (s : Scheduler Cluster κ) (c : Cluster) :
    (s.withCluster c).cluster = c := rfl

/-- The tasks of the cluster are the live ones, and no agent has both a task and an offer. -/
structure InStep (s : Scheduler Cluster κ) : Prop where
  tasks : s.cluster.tasks.Perm (s.tracker.live.map (·.id))
  apart : s.cluster.Apart
  named : (s.ledger []).WellNamed

variable {s t : Scheduler Cluster κ}

namespace InStep

theorem congr (h : s.InStep) (tasks : t.cluster.tasks = s.cluster.tasks) (apart : t.cluster.Apart)
    (live : t.tracker.live = s.tracker.live) (named : (t.ledger []).WellNamed) : t.InStep := by
  refine ⟨?_, apart, named⟩
  rw [tasks, live]
  exact h.tasks

/-- No task is on two agents. -/
theorem nodup (h : s.InStep) : s.cluster.tasks.Nodup :=
  h.tasks.nodup_iff.2 h.named.nodup_live

theorem mem_tasks_iff (h : s.InStep) {task : TaskId} :
    task ∈ s.cluster.tasks ↔ s.tracker.contains task = true := by
  rw [Tracker.contains_iff]
  exact h.tasks.mem_iff

/-- If no agent is busy, no task is live. -/
theorem live_eq_nil (h : s.InStep) (idle : s.cluster.busy = 0) : s.tracker.live = [] := by
  have none := h.tasks
  rw [Cluster.busy_eq_zero_iff.1 idle] at none
  exact List.map_eq_nil_iff.1 none.nil_eq.symm

/-- Supervision that knows how many agents are busy gives up nothing. -/
theorem cleared_eq_zero (h : s.InStep) : (s.settle s.cluster.busy).1.cleared = 0 := by
  by_cases idle : s.cluster.busy = 0
  · simp [settle, idle, Tracker.clearNotices, h.live_eq_nil idle]
  · simp [settle, idle]

end InStep

/-! ## Actions -/

end Scheduler

/-- Is the action one of those that change which tasks are live? -/
def Action.tracks : Action κ → Bool
  | .place _ | .turn _ | .apply _ => true
  | _ => false

def Action.isSupervision : Action κ → Bool
  | .supervise | .inspect => true
  | _ => false

def Action.isApply : Action κ → Bool
  | .apply _ => true
  | _ => false

namespace Scheduler

variable {s : Scheduler Cluster κ}

theorem live_supervise {δ : Type} [ClusterDriver δ] {nodes : Nat} {s : Scheduler δ κ}
    (idle : nodes = 0 → s.tracker.live = []) :
    (OfferDispatch.supervise nodes s).2.tracker.live = s.tracker.live := by
  have given : (s.giveUp nodes).tracker.live = s.tracker.live := by
    rw [giveUp]
    split
    · next none => exact (idle none).symm
    · rfl
  rw [supervise_eq]
  split
  · split <;> exact given
  · rfl

/-- Whoever tracks nothing leaves the live tasks alone, unless tasks are given up. -/
theorem live_perform {δ : Type} [ClusterDriver δ] (env : Surroundings) (s : Scheduler δ κ)
    {action : Action κ} (other : action.tracks = false)
    (idle : action.isSupervision = true → env.nodes = 0 → s.tracker.live = []) :
    (s.perform env action).2.tracker.live = s.tracker.live := by
  by_cases quiet : action.isQuiet = true
  · rw [(quiet_perform env s quiet).tracker]
  cases action with
  | enlist r =>
      obtain ⟨e, h⟩ | ⟨-, h⟩ := s.enlist_cases r <;> rw [perform, h]
  | cancel worker =>
      simp only [perform, cancel]
      split
      · rfl
      · split <;> rfl
  | supervise | inspect => exact live_supervise (idle rfl)
  | withdraw | release | stop => rfl
  | place | turn | apply => cases other
  | _ => exact absurd rfl quiet

/-- Whoever places no offers leaves the assignments of the cluster alone. -/
theorem assignments_perform (env : Surroundings) (s : Scheduler Cluster κ) {action : Action κ}
    (other : action.tracks = false) :
    (s.perform env action).2.cluster.assignments = s.cluster.assignments := by
  refine (s.speaks_perform env action).preserves
    (P := fun c => c.assignments = s.cluster.assignments) ?_ rfl
  intro call c may same
  refine (Cluster.assignments_answer ?_ c).trans same
  rintro offer task rfl
  cases action <;> first | exact may | cases other

theorem tasks_perform (env : Surroundings) (s : Scheduler Cluster κ) {action : Action κ}
    (other : action.tracks = false) : (s.perform env action).2.cluster.tasks = s.cluster.tasks := by
  rw [Cluster.tasks, assignments_perform env s other, Cluster.tasks]

theorem apart_perform (env : Surroundings) {s : Scheduler Cluster κ} (h : s.cluster.Apart)
    (action : Action κ) : (s.perform env action).2.cluster.Apart :=
  (s.speaks_perform env action).preserves (fun call _ _ apart => apart.answer call) h

theorem attended_perform (env : Surroundings) (s : Scheduler Cluster κ) (action : Action κ) :
    (s.perform env action).2.cluster.attended = s.cluster.attended :=
  (s.speaks_perform env action).preserves
    (P := fun c => c.attended = s.cluster.attended)
    (fun call c _ same => (Cluster.attended_answer call c).trans same) rfl

namespace InStep

/-- A turn writes into both books or into neither. -/
theorem turn {t : Turn Cluster κ} (h : t.met.scheduler.InStep) (now : Instant) :
    (t.after now).scheduler.InStep := by
  have start : (t.met.scheduler.ledger ([] ++ t.met.notices)).WellNamed := h.named
  have named : ((t.after now).scheduler.ledger []).WellNamed := by
    have kept := start.leads (leads_offer now t.offer start)
    exact kept
  cases t.does now with
  | leave link tracker =>
      have same : (t.after now).scheduler.cluster = t.met.scheduler.cluster :=
        congrArg Link.driver link
      exact h.congr (by rw [same]) (same ▸ h.apart) (by rw [tracker]) named
  | refuse task e answer link tracker =>
      have after : (t.after now).scheduler.cluster =
          (t.met.scheduler.cluster.launch t.offer.id task).2 := congrArg Link.driver link
      have same : (t.after now).scheduler.cluster = t.met.scheduler.cluster := by
        obtain ⟨-, e, refused⟩ | ⟨_, _, _, -, launched⟩ :=
          t.met.scheduler.cluster.launch_cases t.offer.id task
        · rw [after, refused]
        · have ok : (t.met.scheduler.cluster.launch t.offer.id task).1 = .error e := answer
          rw [launched] at ok
          cases ok
      exact h.congr (by rw [same]) (same ▸ h.apart) (by rw [tracker]) named
  | launch r rest tried task same answer link tracker =>
      have after : (t.after now).scheduler.cluster =
          (t.met.scheduler.cluster.launch t.offer.id task).2 := congrArg Link.driver link
      have untracked := Turn.untracked_of_attempt h.named tried
      have assigned := (Cluster.perm_assignments_launch h.apart answer).map (·.task)
      refine ⟨?_, ?_, named⟩
      · rw [Tracker.insert_eq untracked] at tracker
        rw [after, tracker, List.map_append]
        refine (assigned.trans ?_).trans (List.perm_append_singleton _ _).symm
        rw [List.map_cons, same]
        exact h.tasks.cons r.name
      · rw [after]
        exact h.apart.answer (.launch t.offer.id task)

theorem place (h : s.InStep) (now : Instant) (batch : List (Offer Float)) :
    (s.place now batch).scheduler.InStep := by
  have placed := Placement.rel_foldl_offer
    (R := fun p q : Placement Cluster κ => p.scheduler.InStep → q.scheduler.InStep)
    (fun _ => id) (fun first second h => second (first h)) (fun t h => h.turn now)
    (arrangeByAffinity s.affinity batch) ⟨s, [], []⟩ h
  exact ⟨placed.tasks, placed.apart, placed.named⟩

/-- Every action keeps scheduler and cluster in step but the one that takes note of a status, as
long as supervision knows how many agents are busy. -/
theorem perform (h : s.InStep) (env : Surroundings) {action : Action κ}
    (other : action.isApply = false)
    (fresh : action.isSupervision = true → env.nodes = s.cluster.busy) :
    (s.perform env action).2.InStep := by
  by_cases tracks : action.tracks = true
  · cases action with
    | place batch =>
        simp only [Scheduler.perform]
        split
        · exact h
        · exact h.place env.now batch
    | turn generation =>
        simp only [Scheduler.perform, Scheduler.turn]
        split
        · split
          · exact h
          · have drained : ({ s with buffer := s.buffer.drain.2 } : Scheduler Cluster κ).InStep :=
              ⟨h.tasks, h.apart, h.named⟩
            exact drained.place env.now s.buffer.drain.1
        · exact ⟨h.tasks, h.apart, h.named⟩
    | apply => cases other
    | _ => cases tracks
  · have leaves : action.tracks = false := Bool.eq_false_iff.2 tracks
    refine h.congr (s.tasks_perform env leaves) (apart_perform env h.apart action) ?_ ?_
    · refine s.live_perform env leaves fun supervises idle => h.live_eq_nil ?_
      rw [← fresh supervises, idle]
    · have kept := h.named.becomes (becomes_perform env action h.named)
      exact kept

end InStep

/-! ## Statuses -/

end Scheduler

/-- A status for a live task is applied. The task is no longer live afterwards if the status ends
it, and otherwise the same tasks are. -/
theorem Tracker.live_onStatus? {t : Tracker κ} {status : TaskStatus}
    (nodup : (t.live.map (·.id)).Nodup) (live : t.contains status.task = true) :
    ∃ effect, t.onStatus? status = some effect ∧
      (status.state.isTerminal = true →
        (t.live.map (·.id)).Perm (status.task :: effect.tracker.live.map (·.id))) ∧
      (status.state.isTerminal = false →
        effect.tracker.live.map (·.id) = t.live.map (·.id)) := by
  rw [contains, List.any_eq_true] at live
  obtain ⟨l, found⟩ := Option.isSome_iff_exists.1 (List.find?_isSome.2 live)
  have find : t.find? status.task = some l := found
  obtain ⟨own, before, after, split⟩ := exists_of_find? find
  have replaced (state : TaskState) (announced : Bool) :
      (t.replace { l with state := state, announced := announced }).live.map (·.id) =
        t.live.map (·.id) := by
    rw [replace_eq split nodup { l with state := state, announced := announced } rfl, split]
    simp [LiveTask.id]
  by_cases late : status.state.rank < l.state.rank
  · have goes : status.state.isTerminal = false := by
      have bound := l.state.rank_le
      rw [Bool.eq_false_iff, ne_eq, TaskState.isTerminal_iff_rank]
      omega
    refine ⟨⟨.rejected, [], t⟩, by simp [onStatus?, find, late], ?_, fun _ => rfl⟩
    intro ends
    rw [goes] at ends
    cases ends
  · refine ⟨t.advance l status, by simp [onStatus?, find, late], ?_, ?_⟩
    · intro ends
      rw [advance, if_pos ends, retire, filter_live_eq split nodup, split, ← own]
      exact List.perm_middle.map LiveTask.id
    · intro goes
      rw [advance, if_neg (Bool.eq_false_iff.1 goes)]
      split <;> exact replaced _ _

/-- A status that is let through is for a task that an agent has. -/
theorem Cluster.mem_tasks_of_observe {c : Cluster} {status : TaskStatus}
    (passes : (c.observe status).1 = true) : status.task ∈ c.tasks := by
  obtain ⟨-, held⟩ | ⟨known, -⟩ | ⟨-, before, a, after, first, -⟩ := c.observe_cases status
  · rw [held] at passes
    cases passes
  · exact known
  · exact mem_tasks.2 ⟨a, by simp [first.split], first.passes⟩

namespace Scheduler

variable {s : Scheduler Cluster κ}

/-- A status that the cluster lets through is for a live task, and once the scheduler has taken note
of it as well, both are in step again. -/
theorem InStep.apply (h : s.InStep) {status : TaskStatus}
    (passes : (s.cluster.observe status).1 = true) :
    ∃ effect, s.tracker.onStatus? status = some effect ∧
      ({ s.withCluster (s.cluster.observe status).2 with
        tracker := effect.tracker } : Scheduler Cluster κ).InStep := by
  have known := Cluster.mem_tasks_of_observe passes
  obtain ⟨effect, applied, ended, kept⟩ :=
    Tracker.live_onStatus? h.named.nodup_live (h.mem_tasks_iff.1 known)
  refine ⟨effect, applied, ?_, h.apart.observe status, ?_⟩
  · cases ends : status.state.isTerminal with
    | true =>
        obtain ⟨t, same, assigned⟩ := Cluster.perm_assignments_observe ends known
        have before : s.cluster.tasks.Perm
            (t.task :: (s.cluster.observe status).2.tasks) := assigned.map Assignment.task
        rw [same] at before
        exact (List.perm_cons _).1 (before.symm.trans (h.tasks.trans (ended ends)))
    | false =>
        obtain ⟨unknown, -⟩ | ⟨-, -, same⟩ | ⟨terminal, -⟩ := s.cluster.observe_cases status
        · exact absurd known unknown
        · change (s.cluster.observe status).2.tasks.Perm _
          rw [same, kept ends]
          exact h.tasks
        · rw [ends] at terminal
          cases terminal
  · have moved := h.named.leads (leads_status applied h.named)
    exact moved

/-! ## Supervision -/

end Scheduler

/-- Does the action give up a worker or supervise, or follow from that? -/
def Action.isAftermath : Action κ → Bool
  | .cancel _ | .kill _ | .supervise | .inspect | .release | .tell _ | .answer _ => true
  | _ => false

/-- Is supervision nothing that the action is, or that follows from it? -/
def Action.isUnsupervised : Action κ → Bool
  | .cancel _ | .kill _ | .supervise | .inspect | .apply _ => false
  | _ => true

theorem Action.of_isAftermath {action : Action κ} (h : action.isAftermath = true) :
    action.isApply = false ∧ action.tracks = false := by
  cases action <;> first | exact ⟨rfl, rfl⟩ | cases h

theorem Action.of_isUnsupervised {action : Action κ} (h : action.isUnsupervised = true) :
    action.isApply = false ∧ action.isSupervision = false := by
  cases action <;> first | exact ⟨rfl, rfl⟩ | cases h

/-- Is the operation about a status? -/
def Operation.isStatus : Operation κ → Bool
  | .status _ => true
  | _ => false

/-- An operation gives up a worker, supervises, is about a status, or comes to no supervision. -/
theorem Operation.agenda_cases (settings : SchedulerSettings) {o : Operation κ}
    (other : o.isStatus = false) :
    (∃ worker, o = .cancel worker) ∨ o = .supervise ∨
      ∀ action ∈ o.agenda settings, action.isUnsupervised = true := by
  cases o with
  | cancel worker => exact .inl ⟨worker, rfl⟩
  | supervise => exact .inr (.inl rfl)
  | status => cases other
  | offers delivered =>
      right; right
      simp only [agenda, List.forall_mem_append]
      refine ⟨⟨⟨?_, ?_⟩, ?_⟩, ?_⟩
      · split <;> simp [Action.isUnsupervised]
      · simp [Action.isUnsupervised]
      · split <;> simp [Action.isUnsupervised]
      · simp [Action.isUnsupervised]
  | _ => exact .inr (.inr (by simp [agenda, Action.isUnsupervised]))

namespace Scheduler

section

variable {δ : Type} [ClusterDriver δ]

omit [ClusterDriver δ] in
theorem isAftermath_of_mem_afterEnd {s : Scheduler δ κ} {action : Action κ}
    (h : action ∈ s.afterEnd) : action.isAftermath = true := by
  rw [afterEnd] at h
  split at h
  · obtain rfl | rfl := by simpa using h
    · rfl
    · rfl
  · obtain rfl := List.mem_singleton.1 h
    rfl

omit [ClusterDriver δ] in
theorem isAftermath_of_mem_afterEnd_answer {s : Scheduler δ κ} {reply : Reply}
    {action : Action κ} (h : action ∈ s.afterEnd ++ [.answer reply]) :
    action.isAftermath = true := by
  obtain ended | last := List.mem_append.1 h
  · exact isAftermath_of_mem_afterEnd ended
  · obtain rfl := List.mem_singleton.1 last
    rfl

/-- What follows from a status is part of its aftermath. -/
theorem isAftermath_of_mem_apply {env : Surroundings} {s : Scheduler δ κ} {status : TaskStatus}
    {action : Action κ} (h : action ∈ (s.perform env (.apply status)).1) :
    action.isAftermath = true := by
  simp only [perform, apply] at h
  split at h
  · rw [List.append_assoc] at h
    obtain tells | ended := List.mem_append.1 h
    · obtain ⟨_, -, rfl⟩ := List.mem_map.1 tells
      rfl
    · exact isAftermath_of_mem_afterEnd_answer ended
  · split at h
    · obtain rfl := List.mem_singleton.1 h
      rfl
    · exact isAftermath_of_mem_afterEnd_answer h

theorem isAftermath_of_mem_perform (env : Surroundings) (s : Scheduler δ κ) (action : Action κ)
    (aftermath : action.isAftermath = true) :
    ∀ next ∈ (s.perform env action).1, next.isAftermath = true := by
  intro next h
  cases action with
  | cancel worker =>
      simp only [perform, cancel] at h
      split at h
      · obtain rfl := List.mem_singleton.1 h
        rfl
      · split at h
        · obtain rfl | ended := List.mem_cons.1 h
          · rfl
          · exact isAftermath_of_mem_afterEnd_answer ended
        · exact isAftermath_of_mem_afterEnd_answer h
  | kill worker => exact isAftermath_of_mem_afterEnd_answer h
  | inspect =>
      obtain rfl := List.mem_singleton.1 h
      rfl
  | release =>
      obtain ⟨_, -, rfl⟩ := List.mem_map.1 h
      rfl
  | supervise | tell | answer => cases h
  | _ => cases aftermath

theorem isUnsupervised_of_mem_perform (env : Surroundings) (s : Scheduler δ κ)
    (action : Action κ) (unsupervised : action.isUnsupervised = true) :
    ∀ next ∈ (s.perform env action).1, next.isUnsupervised = true := by
  have placed (p : Placement δ κ) : ∀ next ∈ (placed p).1, next.isUnsupervised = true :=
    List.forall_mem_append.2 ⟨List.forall_mem_map.2 fun _ _ => rfl,
      List.forall_mem_map.2 fun _ _ => rfl⟩
  cases action with
  | enlist r =>
      obtain ⟨e, h⟩ | ⟨-, h⟩ := s.enlist_cases r <;> simp [perform, h, Action.isUnsupervised]
  | connect worker =>
      obtain h | ⟨attempts, last, h⟩ := s.connect_cases worker <;>
        simp [perform, h, Action.isUnsupervised]
  | place batch =>
      simp only [perform]
      split
      · simp
      · exact placed _
  | turn generation =>
      simp only [perform, turn]
      split
      · split
        · simp [Action.isUnsupervised]
        · exact List.forall_mem_append.2 ⟨placed _, by simp [Action.isUnsupervised]⟩
      · simp
  | cancel | kill | supervise | inspect | apply => cases unsupervised
  | _ => simp [perform, Action.isUnsupervised]

end

variable {s : Scheduler Cluster κ}

/-- No supervision that the work comes to gives up any task. -/
def ClearsNothing (env : Surroundings) (s : Scheduler Cluster κ) (agenda : List (Action κ)) :
    Prop :=
  ∀ (t : Scheduler Cluster κ) (action : Action κ) (rest : List (Action κ)),
    Work.Leads env ⟨s, agenda⟩ ⟨t, action :: rest⟩ → action.isSupervision = true →
      (t.settle env.nodes).1.cleared = 0

/-- While workers are given up and supervision goes on, as many agents are busy as before. -/
theorem InStep.aftermath (h : s.InStep) {env : Surroundings} (nodes : env.nodes = s.cluster.busy)
    {agenda : List (Action κ)} (all : ∀ action ∈ agenda, action.isAftermath = true)
    {w : Work Cluster κ} (leads : Work.Leads env ⟨s, agenda⟩ w) :
    w.scheduler.InStep ∧ env.nodes = w.scheduler.cluster.busy := by
  refine (leads.preserves (P := fun t => t.InStep ∧ env.nodes = t.cluster.busy) ?_
    (isAftermath_of_mem_perform env) ⟨h, nodes⟩ all).1
  rintro t action aftermath ⟨inStep, same⟩
  obtain ⟨other, leaves⟩ := Action.of_isAftermath aftermath
  refine ⟨inStep.perform env other fun _ => same, ?_⟩
  rw [same, Cluster.busy_eq, Cluster.busy_eq, tasks_perform env t leaves]

theorem InStep.clearsNothing_of_aftermath (h : s.InStep) {env : Surroundings}
    (nodes : env.nodes = s.cluster.busy) {agenda : List (Action κ)}
    (all : ∀ action ∈ agenda, action.isAftermath = true) : s.ClearsNothing env agenda := by
  intro t action rest leads supervises
  obtain ⟨inStep, same⟩ := h.aftermath nodes all leads
  rw [same]
  exact inStep.cleared_eq_zero

/-- An operation that is not about a status keeps scheduler and cluster in step, and no supervision
on the way gives up a task. -/
theorem InStep.run (h : s.InStep) {env : Surroundings} (nodes : env.nodes = s.cluster.busy)
    {o : Operation κ} (other : o.isStatus = false) :
    (s.run env o).scheduler.InStep ∧ s.ClearsNothing env (o.agenda s.settings) := by
  have closes (aftermath : ∀ action ∈ o.agenda s.settings, action.isAftermath = true) :
      (s.run env o).scheduler.InStep ∧ s.ClearsNothing env (o.agenda s.settings) :=
    ⟨(h.aftermath nodes aftermath (Work.leads_run env s o)).1,
      h.clearsNothing_of_aftermath nodes aftermath⟩
  obtain ⟨worker, rfl⟩ | rfl | unsupervised := Operation.agenda_cases s.settings other
  · exact closes (by simp [Operation.agenda, Action.isAftermath])
  · exact closes (by simp [Operation.agenda, Action.isAftermath])
  · have performed (t : Scheduler Cluster κ) (action : Action κ)
        (plain : action.isUnsupervised = true) (inStep : t.InStep) :
        (t.perform env action).2.InStep := by
      obtain ⟨unlike, never⟩ := Action.of_isUnsupervised plain
      refine inStep.perform env unlike fun supervises => ?_
      rw [never] at supervises
      cases supervises
    have kept {w : Work Cluster κ} (leads : Work.Leads env ⟨s, o.agenda s.settings⟩ w) :=
      leads.preserves performed (isUnsupervised_of_mem_perform env) h unsupervised
    refine ⟨(kept (Work.leads_run env s o)).1, ?_⟩
    intro t action rest leads supervises
    have never := (Action.of_isUnsupervised ((kept leads).2 action List.mem_cons_self)).2
    rw [never] at supervises
    cases supervises

/-- So does a status that the cluster lets through, once the scheduler has taken note of it as well;
and the scheduler knows its task. -/
theorem InStep.status (h : s.InStep) {status : TaskStatus}
    (passes : (s.cluster.observe status).1 = true) {env : Surroundings}
    (nodes : env.nodes = (s.cluster.observe status).2.busy) :
    let observed := s.withCluster (s.cluster.observe status).2
    (observed.run env (.status status)).scheduler.InStep ∧
      observed.ClearsNothing env [.apply status] ∧
      ∃ outcome, (observed.run env (.status status)).reply = some (.outcome outcome) := by
  intro observed
  obtain ⟨effect, applied, inStep⟩ := h.apply passes
  have same : observed.tracker.onStatus? status = some effect := applied
  have done : (observed.perform env (.apply status)).2 =
      { observed with tracker := effect.tracker } := by
    simp only [Scheduler.perform, Scheduler.apply, same]
  have ahead : (observed.perform env (.apply status)).2.InStep := done ▸ inStep
  have fresh : env.nodes = (observed.perform env (.apply status)).2.cluster.busy := by
    rw [done]
    exact nodes
  -- The status itself comes first; from then on, work is in step.
  have after {w : Work Cluster κ} (leads : Work.Leads env ⟨observed, [.apply status]⟩ w) :
      w = ⟨observed, [.apply status]⟩ ∨
        w.scheduler.InStep ∧ env.nodes = w.scheduler.cluster.busy := by
    obtain rfl | ⟨next, rfl, rest⟩ := Relation.ReflTransGen.cases_head leads
    · exact .inl rfl
    · right
      refine ahead.aftermath fresh ?_ rest
      rw [List.append_nil]
      exact fun action => isAftermath_of_mem_apply
  refine ⟨?_, ?_, ?_⟩
  · obtain nothing | ⟨last, -⟩ := after (Work.leads_run env observed (.status status))
    · cases congrArg Work.left nothing
    · exact last
  · intro t action rest leads supervises
    obtain first | ⟨inStep, same⟩ := after leads
    · cases congrArg Work.left first
      cases supervises
    · rw [same]
      exact inStep.cleared_eq_zero
  · rw [reply_status, same]
    exact ⟨_, rfl⟩

end Scheduler

end OfferDispatch
