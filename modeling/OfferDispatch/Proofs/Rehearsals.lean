import OfferDispatch.Proofs.InStep

/-!
# What can happen in a rehearsal

Hosts ask for things, processing loops go on, events arrive, and time passes. Events may arrive in
any order, early, late and more than once; whoever receives them asks the cluster whether a status
still matters. Whatever happens, one thing after another, scheduler and cluster stay in step.
-/

namespace OfferDispatch

variable {κ : Type}

inductive Incident (κ : Type)
  /-- Somebody asks something of the scheduler. Only the cluster has statuses to report. -/
  | ask (o : Operation (Listener κ)) (other : o.isStatus = false)
  /-- A caller who is in the middle of something goes on with an action. -/
  | act (action : Action (Listener κ)) (other : action.isApply = false)
  /-- The cluster makes offers, which have yet to be passed on. -/
  | take (agent : Option AgentId)
  /-- An event arrives, which need not be in flight: it may have arrived before. -/
  | arrive (event : ClusterEvent)
  /-- The event at a position of those in flight arrives, if there is one. -/
  | land (position : Nat)
  | wait (millis : Nat)

namespace Rehearsal

/-- The rehearsal once an event that was in flight has arrived. -/
def land (r : Rehearsal κ) (position : Nat) : Rehearsal κ :=
  match r.cluster.inFlight[position]? with
  | some flight => (r.withCluster
      { r.cluster with inFlight := r.cluster.inFlight.eraseIdx position }).receive flight.event
  | none => r

def incur (r : Rehearsal κ) : Incident κ → Rehearsal κ
  | .ask o _ => (r.run o).1
  | .act action _ => { r with scheduler := (r.scheduler.perform r.surroundings action).2 }
  | .take agent => r.withCluster (r.cluster.takeOffers agent).2
  | .arrive event => r.receive event
  | .land position => r.land position
  | .wait millis => r.withCluster { r.cluster with clock := r.cluster.clock + millis }

def after (r : Rehearsal κ) (incidents : List (Incident κ)) : Rehearsal κ := incidents.foldl incur r

/-- What is kept by one turn of a processing loop is kept by any number of them. -/
theorem takeTurns_preserves {P : Rehearsal κ → Prop}
    (turned : ∀ (r : Rehearsal κ) (generation : Nat), P r → P (r.run (.turn generation)).1)
    {r : Rehearsal κ} (h : P r) (fuel : Nat) : P (Desk.takeTurns fuel r) := by
  induction fuel generalizing r with
  | zero => exact h
  | succ fuel ih =>
      rw [Desk.takeTurns]
      split
      · next generation _ => exact ih (turned r generation h)
      · exact h

/-- What is kept when an event is no longer in flight, and when one arrives, is kept when an event
that was in flight arrives. -/
theorem land_preserves {P : Rehearsal κ → Prop} {r : Rehearsal κ} {position : Nat}
    (landed : P (r.withCluster
      { r.cluster with inFlight := r.cluster.inFlight.eraseIdx position }))
    (received : ∀ (r : Rehearsal κ) (event : ClusterEvent), P r → P (r.receive event))
    (h : P r) : P (r.land position) := by
  rw [land]
  split
  · next flight _ => exact received _ flight.event landed
  · exact h

/-- What actions keep, and what does not depend on the cluster, is kept by every incident. -/
theorem incur_preserves {P : Scheduler Cluster (Listener κ) → Prop}
    (given : ∀ s c, P s → P (s.withCluster c))
    (performed : ∀ env s action, P s → P (s.perform env action).2) {r : Rehearsal κ}
    (h : P r.scheduler) (i : Incident κ) : P (r.incur i).scheduler := by
  have run (r : Rehearsal κ) (o : Operation (Listener κ)) (h : P r.scheduler) :
      P (r.run o).1.scheduler :=
    Scheduler.run_preserves (performed r.surroundings) o h
  have turns (fuel : Nat) (r : Rehearsal κ) (h : P r.scheduler) :
      P (Desk.takeTurns fuel r).scheduler :=
    takeTurns_preserves (P := fun r => P r.scheduler)
      (fun r generation => run r (.turn generation)) h fuel
  have receive (r : Rehearsal κ) (event : ClusterEvent) (h : P r.scheduler) :
      P (r.receive event).scheduler := by
    cases event with
    | registered id => exact run r (.registered id) h
    | idle agent =>
        have taken := given r.scheduler (r.cluster.takeOffers agent).2 h
        simp only [Rehearsal.receive]
        split
        · exact taken
        · exact turns _ _ (run (r.withCluster _) (.offers (r.cluster.takeOffers agent).1) taken)
    | status status =>
        have observed := given r.scheduler (r.cluster.observe status).2 h
        have passed := run (r.withCluster _) (.status status) observed
        simp only [Rehearsal.receive]
        split
        · split
          · exact given _ _ passed
          · exact passed
        · exact observed
  cases i with
  | ask o => exact run r o h
  | act action => exact performed r.surroundings r.scheduler action h
  | take agent => exact given r.scheduler _ h
  | arrive event => exact receive r event h
  | land position =>
      exact land_preserves (P := fun r => P r.scheduler) (given r.scheduler _ h) receive h
  | wait millis => exact given r.scheduler _ h

/-- No supervision that an operation comes to gives up any task. -/
def ClearsNothing (r : Rehearsal κ) (o : Operation (Listener κ)) : Prop :=
  r.scheduler.ClearsNothing r.surroundings (o.agenda r.scheduler.settings)

structure Sound (r : Rehearsal κ) : Prop where
  inStep : r.scheduler.InStep
  /-- The worker nodes of the host are the busy agents. -/
  nodes : r.nodes = Cluster.busy
  attended : r.cluster.attended = true

namespace Sound

variable {r : Rehearsal κ}

theorem surroundings_nodes (h : r.Sound) : r.surroundings.nodes = r.cluster.busy :=
  congrFun h.nodes r.cluster

/-- Another cluster with the same tasks does as well. -/
theorem withCluster (h : r.Sound) {c : Cluster} (tasks : c.tasks = r.cluster.tasks)
    (apart : c.Apart) (attended : c.attended = r.cluster.attended) : (r.withCluster c).Sound where
  inStep := h.inStep.congr tasks apart rfl h.inStep.named
  nodes := h.nodes
  attended := attended.trans h.attended

theorem take (h : r.Sound) (agent : Option AgentId) :
    (r.withCluster (r.cluster.takeOffers agent).2).Sound := by
  refine h.withCluster ?_ (h.inStep.apart.takeOffers agent) (r.cluster.attended_takeOffers agent)
  rw [Cluster.tasks, Cluster.assignments_takeOffers, Cluster.tasks]

/-- An operation keeps a receiver of events. -/
theorem attended_run {env : Surroundings} {s : Scheduler Cluster κ} (h : s.cluster.attended = true)
    (o : Operation κ) : (s.run env o).scheduler.cluster.attended = true :=
  Scheduler.run_preserves (P := fun s => s.cluster.attended = true)
    (fun s action same => (s.attended_perform env action).trans same) o h

theorem run (h : r.Sound) {o : Operation (Listener κ)} (other : o.isStatus = false) :
    Sound (r.run o).1 ∧ r.ClearsNothing o := by
  obtain ⟨inStep, clears⟩ := h.inStep.run h.surroundings_nodes other
  exact ⟨⟨inStep, h.nodes, attended_run h.attended o⟩, clears⟩

theorem takeTurns (h : r.Sound) (fuel : Nat) : Sound (Desk.takeTurns fuel r) :=
  takeTurns_preserves (fun _ generation h => (h.run (o := .turn generation) rfl).1) h fuel

/-- A status that is let through is not fatal. -/
theorem status (h : r.Sound) {status : TaskStatus} (passes : (r.cluster.observe status).1 = true) :
    let observed := r.withCluster (r.cluster.observe status).2
    Sound (observed.run (.status status)).1 ∧ observed.ClearsNothing (.status status) ∧
      isFatal (observed.run (.status status)).2 = false := by
  intro observed
  have nodes : observed.surroundings.nodes = (r.cluster.observe status).2.busy :=
    congrFun h.nodes (r.cluster.observe status).2
  have attended : observed.scheduler.cluster.attended = true :=
    (r.cluster.attended_observe status).trans h.attended
  obtain ⟨inStep, clears, outcome, reply⟩ := h.inStep.status passes nodes
  refine ⟨⟨inStep, h.nodes, attended_run attended (.status status)⟩, clears, ?_⟩
  have answered : (observed.run (.status status)).2 = some (.outcome outcome) := reply
  rw [answered]
  rfl

theorem receive (h : r.Sound) (event : ClusterEvent) : Sound (r.receive event) := by
  cases event with
  | registered id => exact (h.run (o := .registered id) rfl).1
  | idle agent =>
      have taken := h.take agent
      simp only [Rehearsal.receive]
      split
      · exact taken
      · exact (taken.run (o := .offers (r.cluster.takeOffers agent).1) rfl).1.takeTurns _
  | status status =>
      simp only [Rehearsal.receive]
      split
      · next passes =>
          obtain ⟨sound, -, harmless⟩ := h.status passes
          rw [harmless]
          exact sound
      · next held =>
          have same : (r.cluster.observe status).2 = r.cluster := by
            obtain ⟨-, same⟩ | ⟨-, -, same⟩ | ⟨-, _, _, _, -, same⟩ :=
              r.cluster.observe_cases status
            · rw [same]
            all_goals
              rw [same] at held
              exact absurd rfl held
          rw [same]
          exact h

theorem incur (h : r.Sound) (i : Incident κ) : Sound (r.incur i) := by
  cases i with
  | ask o other => exact (h.run other).1
  | act action other =>
      refine ⟨h.inStep.perform r.surroundings other fun _ => h.surroundings_nodes, h.nodes, ?_⟩
      exact (r.scheduler.attended_perform r.surroundings action).trans h.attended
  | take agent => exact h.take agent
  | arrive event => exact h.receive event
  | land position =>
      have landed := h.withCluster (c := { r.cluster with
        inFlight := r.cluster.inFlight.eraseIdx position }) rfl h.inStep.apart rfl
      exact land_preserves landed (fun _ event h => h.receive event) h
  | wait millis => exact h.withCluster rfl h.inStep.apart rfl

/-- At the beginning there are no tasks at all. -/
theorem new (count runtime : Nat) (info : FrameworkInfo) (attempts : Nat)
    (settings : SchedulerSettings) (pipeline : PipelineSettings) (date : Instant) :
    Sound (Rehearsal.new (κ := κ) (.new count runtime) info attempts settings pipeline date) where
  inStep := by
    have unassigned : (Cluster.new count runtime).tasks = [] := by
      rw [Cluster.tasks, Cluster.assignments_new, List.map_nil]
    exact ⟨.of_eq unassigned, Cluster.apart_new count runtime,
      Scheduler.wellNamed_new settings _ []⟩
  nodes := rfl
  attended := rfl

end Sound

theorem sound_after {r : Rehearsal κ} (h : r.Sound) (incidents : List (Incident κ)) :
    Sound (r.after incidents) :=
  List.foldlRecOn incidents incur h fun _ sound i _ => sound.incur i

/-- Whatever happens in a rehearsal, the tasks of the agents are the live tasks of the scheduler, no
task is on two agents, and no agent has both a task and an offer that is outstanding. Events go on
to be received: no status that is let through is fatal. And no supervision gives up a task, neither
in what anybody may ask for next nor because of a status that arrives next.

A status that is delivered is one step here: the cluster lets it through and the scheduler takes it
in before anything else happens. A worker that is given up between the two is not covered. -/
theorem tasks_in_step (count runtime : Nat) (info : FrameworkInfo) (attempts : Nat)
    (settings : SchedulerSettings) (pipeline : PipelineSettings) (date : Instant)
    (incidents : List (Incident κ)) :
    let r := (new (.new count runtime) info attempts settings pipeline date).after incidents
    (∀ task, task ∈ r.cluster.tasks ↔ task ∈ r.scheduler.tracker.live.map (·.id)) ∧
    r.cluster.tasks.Nodup ∧
    (∀ a ∈ r.cluster.agents, a.offered = none ∨ a.assigned = none) ∧
    r.cluster.attended = true ∧
    (∀ o : Operation (Listener κ), o.isStatus = false → r.ClearsNothing o) ∧
    ∀ status, (r.cluster.observe status).1 = true →
      let observed := r.withCluster (r.cluster.observe status).2
      observed.ClearsNothing (.status status) ∧
        isFatal (observed.run (.status status)).2 = false := by
  intro r
  have sound : r.Sound := sound_after (.new count runtime info attempts settings pipeline date) _
  refine ⟨?_, sound.inStep.nodup, sound.inStep.apart, sound.attended, ?_, ?_⟩
  · exact fun task => sound.inStep.tasks.mem_iff
  · exact fun o other => (sound.run other).2
  · exact fun status passes => (sound.status passes).2

end Rehearsal

namespace Plain

def stage : Rehearsal Unit :=
  .new (.new 1 2000) ⟨"", "", "", "", none⟩ 1 {} {} ⟨0, 0⟩

def requested (name : String) : Incident Unit := .ask (.request (worker name) .stream) rfl

def cancelled (name : String) : Incident Unit := .ask (.cancel ⟨name⟩) rfl

def opening : List (Incident Unit) := [requested "w", .land 0, .wait 50, .land 0]

/-- The task runs on the agent and is live, and its end will not be fatal. -/
theorem tasks_in_step_opening :
    let r := stage.after opening
    let ends : TaskStatus := ⟨⟨"w"⟩, .finished, none⟩
    let observed := r.withCluster (r.cluster.observe ends).2
    r.cluster.tasks = [⟨"w"⟩] ∧ ⟨"w"⟩ ∈ r.scheduler.tracker.live.map (·.id) ∧
      (r.cluster.observe ends).1 = true ∧
      observed.ClearsNothing (.status ends) ∧
      Rehearsal.isFatal (observed.run (.status ends)).2 = false := by
  intro r ends observed
  obtain ⟨same, -, -, -, -, harmless⟩ :=
    Rehearsal.tasks_in_step (κ := Unit) 1 2000 ⟨"", "", "", "", none⟩ 1 {} {} ⟨0, 0⟩ opening
  have tasks : r.cluster.tasks = [⟨"w"⟩] := by decide +kernel
  have passes : (r.cluster.observe ends).1 = true := by decide +kernel
  have live : ⟨"w"⟩ ∈ r.scheduler.tracker.live.map (·.id) := by
    refine (same ⟨"w"⟩).1 ?_
    change _ ∈ r.cluster.tasks
    rw [tasks]
    exact List.mem_cons_self
  exact ⟨tasks, live, passes, harmless ends passes⟩

end Plain

end OfferDispatch
