import OfferDispatch.Proofs.PlacementSafety
import OfferDispatch.Proofs.Rehearsals

/-!
# The launches that statuses come from

A launch puts into flight whatever will be reported of its task, and a kill what will be reported of
it. Neither is taken back when the task ends. A cluster tells by name alone whether a status still
matters, so that a status may be taken for one of a later task of the same name.

It is always on account of a launch of that name, and of the latest one unless the name has been
launched again since. While a session goes on this cannot be: a name that was launched stays taken
until the session is stopped.
-/

namespace OfferDispatch

variable {κ : Type}

/-- What stands at a position of a list stands there also if the list grows. -/
theorem getElem?_append_of_eq_some {α : Type} {l : List α} {n : Nat} {x : α} (h : l[n]? = some x)
    (more : List α) : (l ++ more)[n]? = some x := by
  rw [List.getElem?_append_left (List.getElem?_eq_some_iff.1 h).1, h]

/-- The status that is in flight, and the launch that it is on account of. -/
def Flight.report? (f : Flight) : Option (TaskStatus × Option Nat) :=
  match f.event with
  | .status status => some (status, f.launch)
  | _ => none

/-! ## Clusters -/

namespace Cluster

/-- The statuses in flight, and the launches that they are on account of. -/
def reports (c : Cluster) : List (TaskStatus × Option Nat) := c.inFlight.filterMap Flight.report?

/-- The launches of the cluster are those of a list of tasks, in this order: what is assigned comes
from the latest launch of its name, and every status in flight from a launch of its task. -/
structure Numbered (c : Cluster) (launched : List TaskId) : Prop where
  count : c.launches = launched.length
  assigned : ∀ t ∈ c.assignments, launched[t.launch]? = some t.task
  latest : ∀ t ∈ c.assignments, ∀ k : Nat, launched[k]? = some t.task → k ≤ t.launch
  reports : ∀ p ∈ c.reports, ∃ n : Nat, p.2 = some n ∧ launched[n]? = some p.1.task

/-- No call reports anything by itself but a launch and a kill. -/
theorem reports_answer {call : Call} (noLaunch : ∀ offer task, call ≠ .launch offer task)
    (noKill : ∀ task, call ≠ .kill task) (c : Cluster) :
    (ClusterDriver.answer call c).2.reports = c.reports := by
  cases call with
  | launch offer task => exact absurd rfl (noLaunch offer task)
  | kill task => exact absurd rfl (noKill task)
  | register | revive =>
      simp [ClusterDriver.answer, register, sendLater, reports, Flight.report?]
  | decline offer refuse =>
      change (c.decline offer refuse).reports = c.reports
      obtain ⟨-, same⟩ | ⟨before, a, after, -, same⟩ := c.decline_cases offer refuse
      · rw [same]
      · rw [same]
        simp [reports, Flight.report?]
  | stop => rfl

theorem reports_kill (c : Cluster) (task : TaskId) :
    (c.kill task).reports = c.reports ++ [(⟨task, .killed, some "Killed"⟩, c.launchOf task)] := by
  simp [kill, sendLater, reports, Flight.report?]

theorem launches_answer {call : Call} (noLaunch : ∀ offer task, call ≠ .launch offer task)
    (c : Cluster) : (ClusterDriver.answer call c).2.launches = c.launches := by
  cases call with
  | launch offer task => exact absurd rfl (noLaunch offer task)
  | decline offer refuse =>
      change (c.decline offer refuse).launches = c.launches
      obtain ⟨-, same⟩ | ⟨before, a, after, -, same⟩ := c.decline_cases offer refuse <;> rw [same]
  | register | kill | revive | stop => rfl

/-- The launch of a task that an agent has is that of an assignment. -/
theorem exists_launchOf {c : Cluster} {task : TaskId} (known : task ∈ c.tasks) :
    ∃ t ∈ c.assignments, t.task = task ∧ c.launchOf task = some t.launch := by
  obtain ⟨b, member, runs⟩ := mem_tasks.1 known
  have somebody : (c.agents.find? (·.runs task)).isSome = true :=
    List.find?_isSome.2 ⟨b, member, runs⟩
  obtain ⟨a, found⟩ := Option.isSome_iff_exists.1 somebody
  obtain ⟨before, after, first⟩ := exists_firstAt_of_find? found
  obtain ⟨t, has, same⟩ := SimulatedAgent.runs_iff.1 first.passes
  refine ⟨t, mem_assignments.2 ⟨a, List.mem_of_find?_eq_some found, has⟩, same, ?_⟩
  simp [launchOf, found, has]

namespace Numbered

variable {c d : Cluster} {launched : List TaskId}

/-- Assignments may go, and statuses may arrive. -/
theorem congr (h : c.Numbered launched) (launches : d.launches = c.launches)
    (assignments : ∀ t ∈ d.assignments, t ∈ c.assignments)
    (reports : ∀ p ∈ d.reports, p ∈ c.reports) : d.Numbered launched where
  count := launches.trans h.count
  assigned t member := h.assigned t (assignments t member)
  latest t member := h.latest t (assignments t member)
  reports p member := h.reports p (reports p member)

theorem answer (h : c.Numbered launched) {call : Call}
    (noLaunch : ∀ offer task, call ≠ .launch offer task) (noKill : ∀ task, call ≠ .kill task) :
    (ClusterDriver.answer call c).2.Numbered launched := by
  refine h.congr (launches_answer noLaunch c) ?_ ?_
  · rw [assignments_answer noLaunch]
    exact fun _ => id
  · rw [reports_answer noLaunch noKill]
    exact fun _ => id

/-- A kill is on account of the launch of the task. -/
theorem kill (h : c.Numbered launched) {task : TaskId} (known : task ∈ c.tasks) :
    (c.kill task).Numbered launched where
  count := h.count
  assigned := h.assigned
  latest := h.latest
  reports := by
    obtain ⟨t, member, rfl, same⟩ := exists_launchOf known
    intro p report
    rw [reports_kill] at report
    rcases List.mem_append.1 report with old | new
    · exact h.reports p old
    · rw [List.mem_singleton.1 new]
      exact ⟨t.launch, same, h.assigned t member⟩

/-- A launch is the latest one of its name. -/
theorem launch (h : c.Numbered launched) (apart : c.Apart) {offer : OfferId} {task : Task Float}
    (new : task.id ∉ c.tasks) (ok : (c.launch offer task).1 = .ok ()) :
    (c.launch offer task).2.Numbered (launched ++ [task.id]) := by
  have assigned := Cluster.perm_assignments_launch apart ok
  have last : (launched ++ [task.id])[c.launches]? = some task.id := by
    rw [h.count]
    simp
  obtain ⟨-, e, refused⟩ | ⟨before, a, after, -, done⟩ := c.launch_cases offer task
  · rw [refused] at ok
    cases ok
  refine ⟨?_, ?_, ?_, ?_⟩
  · rw [done, List.length_append, ← h.count]
    rfl
  · intro t member
    rcases List.mem_cons.1 (assigned.mem_iff.1 member) with rfl | old
    · exact last
    · exact getElem?_append_of_eq_some (h.assigned t old) _
  · intro t member k at_
    have bound : k < (launched ++ [task.id]).length := (List.getElem?_eq_some_iff.1 at_).1
    rw [List.length_append, List.length_singleton, ← h.count] at bound
    rcases List.mem_cons.1 (assigned.mem_iff.1 member) with rfl | old
    · exact Nat.le_of_lt_succ bound
    · have earlier : k < launched.length := by
        rw [← h.count]
        refine Nat.lt_of_le_of_ne (Nat.le_of_lt_succ bound) ?_
        rintro rfl
        rw [last] at at_
        have same : task.id = t.task := Option.some.inj at_
        exact new (same ▸ List.mem_map_of_mem old)
      rw [List.getElem?_append_left earlier] at at_
      exact h.latest t old k at_
  · intro p report
    have reported : (c.launch offer task).2.reports =
        c.reports ++ [(⟨task.id, .staging, none⟩, some c.launches),
          (⟨task.id, .running, none⟩, some c.launches),
          (⟨task.id, .finished, some "Agent exited"⟩, some c.launches)] := by
      rw [done]
      simp [Cluster.reports, lifecycle, Flight.report?]
    rw [reported] at report
    rcases List.mem_append.1 report with old | own
    · obtain ⟨n, from_, at_⟩ := h.reports p old
      exact ⟨n, from_, getElem?_append_of_eq_some at_ _⟩
    · refine ⟨c.launches, ?_⟩
      obtain rfl | rfl | rfl := by simpa using own
      all_goals exact ⟨rfl, last⟩

theorem takeOffers (h : c.Numbered launched) (only : Option AgentId) :
    (c.takeOffers only).2.Numbered launched := by
  refine h.congr ?_ ?_ ?_
  · rw [Cluster.takeOffers]
    split <;> rfl
  · rw [assignments_takeOffers]
    exact fun _ => id
  · rw [Cluster.takeOffers]
    split <;> exact fun _ => id

theorem observe (h : c.Numbered launched) (status : TaskStatus) :
    (c.observe status).2.Numbered launched := by
  obtain ⟨-, same⟩ | ⟨-, -, same⟩ | ⟨-, before, a, after, first, same⟩ := c.observe_cases status
  · rw [same]
    exact h
  · rw [same]
    exact h
  · rw [same]
    refine h.congr rfl ?_ ?_
    · intro t member
      obtain ⟨b, there, has⟩ := mem_assignments.1 member
      refine mem_assignments.2 ?_
      rcases List.mem_append.1 there with early | late
      · exact ⟨b, by simp [first.split, early], has⟩
      · rcases List.mem_cons.1 late with rfl | late
        · cases has
        · exact ⟨b, by simp [first.split, late], has⟩
    · simp [Cluster.reports, Flight.report?]

end Numbered

end Cluster

/-! ## Schedulers -/

/-- Does the action launch tasks, or kill one? -/
def Action.dealsWithTasks : Action κ → Bool
  | .place _ | .turn _ | .kill _ => true
  | _ => false

namespace Scheduler

/-- The launches of the cluster are those of the scheduler. -/
def Numbered (s : Scheduler Cluster κ) : Prop := s.cluster.Numbered s.launched

variable {s : Scheduler Cluster κ}

theorem launched_call_launch {δ : Type} [ClusterDriver δ] (l : Link δ) (offer : OfferId)
    (task : Task Float) :
    (l.call (.launch offer task)).2.launched =
      match (l.call (.launch offer task)).1 with
      | .ok () => l.launched ++ [task.id]
      | .error _ => l.launched := by
  rw [Link.launched, Link.launches_call_launch, List.filterMap_append]
  cases (l.call (.launch offer task)).1 <;> simp [Link.launched]

namespace Numbered

/-- Whoever neither launches nor kills goes on with the same launches. -/
theorem perform (h : s.Numbered) (env : Surroundings) {action : Action κ}
    (other : action.dealsWithTasks = false) : (s.perform env action).2.Numbered := by
  have none : s.batch action = [] := by
    cases action with
    | place | turn => cases other
    | _ => rfl
  have launched : (s.perform env action).2.launched = s.launched :=
    launched_eq_of_launches (saysNoLaunch_perform env s none).launches_eq
  rw [Numbered, launched]
  refine (s.speaks_perform env action).preserves (P := fun c => c.Numbered s.launched) ?_ h
  intro call c may numbered
  refine numbered.answer ?_ ?_
  · rintro offer task rfl
    cases action with
    | place | turn => cases other
    | _ => exact may
  · rintro task rfl
    cases action with
    | kill => cases other
    | _ => exact may

/-- A turn that launches its task numbers it. -/
theorem turn {t : Turn Cluster κ} (h : t.met.scheduler.Numbered) (inStep : t.met.scheduler.InStep)
    (now : Instant) : (t.after now).scheduler.Numbered := by
  cases t.does now with
  | leave link tracker =>
      have cluster : (t.after now).scheduler.cluster = t.met.scheduler.cluster :=
        congrArg Link.driver link
      have launched : (t.after now).scheduler.launched = t.met.scheduler.launched :=
        congrArg Link.launched link
      rw [Numbered, cluster, launched]
      exact h
  | refuse task e answer link tracker =>
      have launched : (t.after now).scheduler.launched = t.met.scheduler.launched := by
        have said := launched_call_launch t.met.link t.offer.id task
        rw [answer] at said
        exact (congrArg Link.launched link).trans said
      have cluster : (t.after now).scheduler.cluster =
          (t.met.scheduler.cluster.launch t.offer.id task).2 := congrArg Link.driver link
      rw [Numbered, cluster, launched]
      obtain ⟨-, e, refused⟩ | ⟨_, _, _, -, done⟩ :=
        t.met.scheduler.cluster.launch_cases t.offer.id task
      · rw [refused]
        exact h
      · have failed : (t.met.scheduler.cluster.launch t.offer.id task).1 = .error e := answer
        rw [done] at failed
        cases failed
  | launch r rest tried task same answer link tracker =>
      have launched : (t.after now).scheduler.launched =
          t.met.scheduler.launched ++ [task.id] := by
        have said := launched_call_launch t.met.link t.offer.id task
        rw [answer] at said
        exact (congrArg Link.launched link).trans said
      have cluster : (t.after now).scheduler.cluster =
          (t.met.scheduler.cluster.launch t.offer.id task).2 := congrArg Link.driver link
      have new : task.id ∉ t.met.scheduler.cluster.tasks := by
        rw [same, inStep.mem_tasks_iff, Tracker.contains_iff]
        exact Turn.untracked_of_attempt inStep.named tried
      rw [Numbered, cluster, launched]
      exact h.launch inStep.apart new answer

theorem place (h : s.Numbered) (inStep : s.InStep) (now : Instant) (batch : List (Offer Float)) :
    (s.place now batch).scheduler.Numbered := by
  have placed := Placement.rel_foldl_offer
    (R := fun p q : Placement Cluster κ => p.scheduler.InStep ∧ p.scheduler.Numbered →
      q.scheduler.InStep ∧ q.scheduler.Numbered)
    (fun _ => id) (fun first second h => second (first h))
    (fun t h => ⟨h.1.turn now, h.2.turn h.1 now⟩)
    (arrangeByAffinity s.affinity batch) ⟨s, [], []⟩ ⟨inStep, h⟩
  exact placed.2

/-- An action that supervises nothing goes on with the same launches, or numbers new ones. -/
theorem perform_of_isUnsupervised (h : s.Numbered) (inStep : s.InStep) (env : Surroundings)
    {action : Action κ} (plain : action.isUnsupervised = true) :
    (s.perform env action).2.Numbered := by
  cases action with
  | place batch =>
      simp only [Scheduler.perform]
      split
      · exact h
      · exact h.place inStep env.now batch
  | turn generation =>
      simp only [Scheduler.perform, Scheduler.turn]
      split
      · split
        · exact h
        · have drained : ({ s with buffer := s.buffer.drain.2 } : Scheduler Cluster κ).Numbered := h
          exact drained.place ⟨inStep.tasks, inStep.apart, inStep.named⟩ env.now s.buffer.drain.1
      · exact h
  | cancel | kill | supervise | inspect | apply => cases plain
  | _ => exact h.perform env rfl

theorem wrapUp (h : s.Numbered) (env : Surroundings) : (s.wrapUp env).Numbered := by
  have supervised : (s.perform env .supervise).2.Numbered :=
    h.perform env rfl
  rw [Scheduler.wrapUp]
  split
  · exact supervised
  · exact h

theorem status (h : s.Numbered) (env : Surroundings) (status : TaskStatus) :
    (s.run env (.status status)).scheduler.Numbered := by
  rw [run_status]
  split
  · next effect _ =>
      have noted : ({ s with tracker := effect.tracker } : Scheduler Cluster κ).Numbered := h
      exact noted.wrapUp env
  · split
    · exact h
    · exact h.wrapUp env

/-- It does not matter to launches whether events are received. -/
theorem unattended (h : s.Numbered) :
    (s.withCluster { s.cluster with attended := false }).Numbered :=
  Cluster.Numbered.congr h rfl (fun _ => id) fun _ => id

/-- A worker that is given up is killed only if its task is live. -/
theorem cancel (h : s.Numbered) (inStep : s.InStep) (env : Surroundings) (worker : TaskId) :
    (s.run env (.cancel worker)).scheduler.Numbered := by
  rw [run_cancel]
  split
  · next live =>
      have killed : ({ s with session := (s.session.call (.kill worker)).2 } :
          Scheduler Cluster κ).Numbered := by
        have launched : (s.session.call (.kill worker)).2.link.launched = s.launched :=
          launched_eq_of_launches (quiet_call (s := s) (fun _ => rfl) rfl).launches
        rw [Numbered, Scheduler.launched, launched]
        exact Cluster.Numbered.kill h (inStep.mem_tasks_iff.2 live)
      exact killed.wrapUp env
  · split
    · next taken _ =>
        have struck : ({ s with requests := taken.2 } : Scheduler Cluster κ).Numbered := h
        exact struck.wrapUp env
    · exact h.wrapUp env

/-- Operations number the launches that they make. -/
theorem run (h : s.Numbered) (inStep : s.InStep) (env : Surroundings) {o : Operation κ}
    (other : o.isStatus = false) : (s.run env o).scheduler.Numbered := by
  obtain ⟨worker, rfl⟩ | rfl | unsupervised := Operation.agenda_cases s.settings other
  · exact h.cancel inStep env worker
  · have inspected : (s.perform env .inspect).2.Numbered := h.perform env rfl
    exact inspected
  · have performed (t : Scheduler Cluster κ) (action : Action κ)
        (plain : action.isUnsupervised = true) (both : t.InStep ∧ t.Numbered) :
        (t.perform env action).2.InStep ∧ (t.perform env action).2.Numbered := by
      obtain ⟨unlike, never⟩ := Action.of_isUnsupervised plain
      refine ⟨both.1.perform env unlike ?_, both.2.perform_of_isUnsupervised both.1 env plain⟩
      intro supervises
      rw [never] at supervises
      cases supervises
    exact (run_preserves_of_allowed performed (isUnsupervised_of_mem_perform env) unsupervised
      ⟨inStep, h⟩).2

end Numbered

end Scheduler

/-! ## Rehearsals -/

/-- Does nothing come from outside the cluster or too late? Whatever arrives has been in flight, and
nobody kills a task without having looked whether it is live. -/
def Incident.isRegular : Incident κ → Bool
  | .act (.kill _) _ | .arrive _ => false
  | _ => true

namespace Rehearsal

/-- The rehearsal goes as it should, and launches are numbered. -/
structure Traced (r : Rehearsal κ) : Prop where
  sound : r.Sound
  numbered : r.scheduler.Numbered

namespace Traced

variable {r : Rehearsal κ}

theorem run (h : r.Traced) {o : Operation (Listener κ)} (other : o.isStatus = false) :
    Traced (r.run o).1 :=
  ⟨(h.sound.run other).1, h.numbered.run h.sound.inStep r.surroundings other⟩

theorem takeTurns (h : r.Traced) (fuel : Nat) : Traced (Desk.takeTurns fuel r) :=
  takeTurns_preserves (fun _ generation h => h.run (o := .turn generation) rfl) h fuel

theorem take (h : r.Traced) (agent : Option AgentId) :
    Traced (r.withCluster (r.cluster.takeOffers agent).2) :=
  ⟨h.sound.take agent, Cluster.Numbered.takeOffers h.numbered agent⟩

theorem receive (h : r.Traced) (event : ClusterEvent) : Traced (r.receive event) := by
  refine ⟨h.sound.receive event, ?_⟩
  cases event with
  | registered id => exact (h.run (o := .registered id) rfl).numbered
  | idle agent =>
      have taken := h.take agent
      simp only [Rehearsal.receive]
      split
      · exact taken.numbered
      · exact ((taken.run (o := .offers (r.cluster.takeOffers agent).1) rfl).takeTurns _).numbered
  | status status =>
      have observed : (r.scheduler.withCluster (r.cluster.observe status).2).Numbered :=
        Cluster.Numbered.observe h.numbered status
      have passed := observed.status
        (r.withCluster (r.cluster.observe status).2).surroundings status
      simp only [Rehearsal.receive]
      split
      · split
        · exact Scheduler.Numbered.unattended passed
        · exact passed
      · exact observed

theorem incur (h : r.Traced) {i : Incident κ} (regular : i.isRegular = true) :
    Traced (r.incur i) := by
  cases i with
  | ask o other => exact h.run other
  | take agent => exact h.take agent
  | land position =>
      let c := { r.cluster with inFlight := r.cluster.inFlight.eraseIdx position }
      have fewer : ∀ p ∈ c.reports, p ∈ r.cluster.reports := fun p report =>
        ((List.eraseIdx_sublist _ _).filterMap _).subset report
      have landed : Traced (r.withCluster c) :=
        ⟨h.sound.withCluster rfl h.sound.inStep.apart rfl,
          Cluster.Numbered.congr h.numbered rfl (fun _ => id) fewer⟩
      exact land_preserves landed (fun _ event h => h.receive event) h
  | wait millis =>
      exact ⟨h.sound.withCluster rfl h.sound.inStep.apart rfl,
        Cluster.Numbered.congr h.numbered rfl (fun _ => id) fun _ => id⟩
  | act action other =>
      refine ⟨h.sound.incur (.act action other), ?_⟩
      have acted : (r.scheduler.perform r.surroundings action).2.Numbered := by
        cases action with
        | kill => cases regular
        | apply => cases other
        | cancel | supervise | inspect => exact h.numbered.perform r.surroundings rfl
        | _ => exact h.numbered.perform_of_isUnsupervised h.sound.inStep r.surroundings rfl
      exact acted
  | arrive => cases regular

/-- At the beginning nothing has been launched. -/
theorem new (count runtime : Nat) (info : FrameworkInfo) (attempts : Nat)
    (settings : SchedulerSettings) (pipeline : PipelineSettings) (date : Instant) :
    Traced (Rehearsal.new (κ := κ) (.new count runtime) info attempts settings pipeline date) where
  sound := .new count runtime info attempts settings pipeline date
  numbered := by
    have unassigned (t : Assignment) : t ∉ (Cluster.new count runtime).assignments := by
      rw [Cluster.assignments_new]
      exact List.not_mem_nil
    exact ⟨rfl, fun t member => absurd member (unassigned t),
      fun t member => absurd member (unassigned t), nofun⟩

end Traced

theorem traced_after {r : Rehearsal κ} (h : r.Traced) {incidents : List (Incident κ)}
    (regular : ∀ i ∈ incidents, i.isRegular = true) : Traced (r.after incidents) :=
  List.foldlRecOn incidents incur h fun _ traced i member => traced.incur (regular i member)

theorem becomes_after {r : Rehearsal κ} {created : List (Notice (Listener κ))}
    (wn : (r.scheduler.ledger created).WellNamed) (incidents : List (Incident κ)) :
    ∃ later, (r.scheduler.ledger created).Becomes
      ((r.after incidents).scheduler.ledger later) := by
  let P (s : Scheduler Cluster (Listener κ)) : Prop :=
    ∃ later, (r.scheduler.ledger created).Becomes (s.ledger later)
  have performed (env : Surroundings) (s : Scheduler Cluster (Listener κ))
      (action : Action (Listener κ)) (before : P s) : P (s.perform env action).2 := by
    obtain ⟨sofar, before⟩ := before
    exact ⟨_, before.trans (Scheduler.becomes_perform env action (wn.becomes before))⟩
  exact List.foldlRecOn (motive := fun r => P r.scheduler) incidents incur ⟨created, .refl⟩
    fun _ before i _ => incur_preserves (P := P) (fun _ _ same => same) performed before i

/-- While the session is not stopped, no name is launched twice. -/
theorem eq_of_launched_in_session {r : Rehearsal κ} (h : r.Sound) (incidents : List (Incident κ))
    (same : r.scheduler.generation = (r.after incidents).scheduler.generation) {n m : Nat}
    {task : TaskId} (since : r.scheduler.launched.length ≤ n) (le : n ≤ m)
    (first : (r.after incidents).scheduler.launched[n]? = some task)
    (second : (r.after incidents).scheduler.launched[m]? = some task) : n = m := by
  obtain ⟨later, becomes⟩ := becomes_after h.inStep.named incidents
  obtain ⟨more, grown, -, nodup, -⟩ := (becomes.launches h.inStep.named).2 same.symm
  have launched : (r.after incidents).scheduler.launched = r.scheduler.launched ++ more := grown
  rw [launched, List.getElem?_append_right since] at first
  rw [launched, List.getElem?_append_right (since.trans le)] at second
  have inside := (List.getElem?_eq_some_iff.1 first).1
  have offset := (List.getElem?_inj inside nodup).1 (first.trans second.symm)
  omega

/-- A status that is let through is on account of a launch of its task, and the task that an agent
has comes from a launch of the same name. The two launches differ exactly if the name has been
launched again since the first. They are the same if the session was in its present generation at
some point before the first launch. -/
theorem stale_status_iff (count runtime : Nat) (info : FrameworkInfo) (attempts : Nat)
    (settings : SchedulerSettings) (pipeline : PipelineSettings) (date : Instant)
    (incidents : List (Incident κ)) (regular : ∀ i ∈ incidents, i.isRegular = true) :
    let start : Rehearsal κ := new (.new count runtime) info attempts settings pipeline date
    let r := start.after incidents
    ∀ f ∈ r.cluster.inFlight, ∀ status, f.event = .status status →
      (r.cluster.observe status).1 = true →
      ∃ n m : Nat, f.launch = some n ∧ r.cluster.launchOf status.task = some m ∧
        r.scheduler.launched[n]? = some status.task ∧
        r.scheduler.launched[m]? = some status.task ∧
        (n ≠ m ↔ ∃ k, n < k ∧ r.scheduler.launched[k]? = some status.task) ∧
        ∀ earlier later, incidents = earlier ++ later →
          (start.after earlier).scheduler.launched.length ≤ n →
          (start.after earlier).scheduler.generation = r.scheduler.generation → n = m := by
  intro start r f member status report passes
  have begun : start.Traced := .new count runtime info attempts settings pipeline date
  have traced : r.Traced := traced_after begun regular
  have reported : (status, f.launch) ∈ r.cluster.reports :=
    List.mem_filterMap.2 ⟨f, member, by simp [Flight.report?, report]⟩
  obtain ⟨n, origin, launched⟩ := traced.numbered.reports _ reported
  obtain ⟨t, assigned, own, current⟩ :=
    Cluster.exists_launchOf (Cluster.mem_tasks_of_observe passes)
  have held := traced.numbered.assigned t assigned
  have latest := traced.numbered.latest t assigned
  rw [own] at held latest
  have le : n ≤ t.launch := latest n launched
  refine ⟨n, t.launch, origin, current, launched, held, ?_, ?_⟩
  · constructor
    · exact fun other => ⟨t.launch, Nat.lt_of_le_of_ne le other, held⟩
    · rintro ⟨k, after, again⟩ rfl
      exact Nat.not_lt.2 (latest k again) after
  · intro earlier later split since same
    have parts : r = (start.after earlier).after later := by
      change start.after incidents = _
      rw [split, after, List.foldl_append]
      rfl
    rw [parts] at same launched held
    have before := sound_after begun.sound earlier
    exact eq_of_launched_in_session before later same since le launched held

end Rehearsal

namespace Plain

/-- A worker is launched and killed; then another one of the same name is asked for and launched. -/
def relaunching : List (Incident Unit) :=
  opening ++ [.land 0, .land 0, .wait 1000, cancelled "w", .land 1, .land 1, .wait 500,
    requested "w", .land 1, .wait 50, .land 1]

/-- The end of the first task is still in flight, and is taken for that of the second. -/
theorem stale_status_iff_relaunching :
    let r := stage.after relaunching
    let ends : TaskStatus := ⟨⟨"w"⟩, .finished, some "Agent exited"⟩
    ⟨2350, .status ends, some 0⟩ ∈ r.cluster.inFlight ∧ (r.cluster.observe ends).1 = true ∧
      ∃ m, r.cluster.launchOf ⟨"w"⟩ = some m ∧ 0 ≠ m := by
  intro r ends
  have flies : ⟨2350, .status ends, some 0⟩ ∈ r.cluster.inFlight := by decide +kernel
  have passes : (r.cluster.observe ends).1 = true := by decide +kernel
  have again : r.scheduler.launched[1]? = some ⟨"w"⟩ := by decide +kernel
  obtain ⟨n, m, origin, current, -, -, differ, -⟩ :=
    Rehearsal.stale_status_iff (κ := Unit) 1 2000 ⟨"", "", "", "", none⟩ 1 {} {} ⟨0, 0⟩ relaunching
      (by decide) _ flies ends rfl passes
  obtain rfl : 0 = n := Option.some.inj origin
  have held : r.cluster.launchOf ⟨"w"⟩ = some m := current
  have other : 0 ≠ m := differ.2 ⟨1, Nat.zero_lt_one, again⟩
  exact ⟨flies, passes, m, held, other⟩

end Plain

end OfferDispatch
