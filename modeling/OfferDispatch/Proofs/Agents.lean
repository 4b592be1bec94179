import OfferDispatch.Cluster.Simulated

/-!
# The agents of a simulated cluster

What can be seen of the agents from outside are the offers that are outstanding and the tasks that
are assigned. Every call and every event concerns one agent at most, those apart that make or take
back all offers; the others stay as they are. So each is described by the place of the agent among
the others and by what the agent is before and after.
-/

namespace OfferDispatch

/-- What a function gives for the elements of a list is what it gives for one of them and what it
gives for the others. -/
theorem perm_filterMap_middle {α β : Type} (f : α → Option β) (before after : List α) (x : α) :
    ((before ++ x :: after).filterMap f).Perm
      ((f x).toList ++ (before ++ after).filterMap f) := by
  refine (List.perm_middle.filterMap f).trans (.of_eq ?_)
  rw [List.filterMap_cons]
  cases f x <;> rfl

namespace SimulatedAgent

theorem runs_iff {a : SimulatedAgent} {task : TaskId} :
    a.runs task = true ↔ ∃ t, a.assigned = some t ∧ t.task = task := by
  simp [runs, Option.any_eq_true]

end SimulatedAgent

namespace Cluster

variable {c : Cluster}

/-- What is assigned to the agents, in their order. -/
def assignments (c : Cluster) : List Assignment := c.agents.filterMap (·.assigned)

/-- The tasks of the agents, in their order. -/
def tasks (c : Cluster) : List TaskId := c.assignments.map (·.task)

/-- The offers that are outstanding, in the order of the agents. -/
def outstanding (c : Cluster) : List OfferId := c.agents.filterMap (·.offered)

/-- No agent has both a task and an outstanding offer. -/
def Apart (c : Cluster) : Prop := ∀ a ∈ c.agents, a.offered = none ∨ a.assigned = none

theorem assignments_congr {c d : Cluster}
    (same : d.agents.map (·.assigned) = c.agents.map (·.assigned)) :
    d.assignments = c.assignments := by
  have given (e : Cluster) : e.assignments = (e.agents.map (·.assigned)).filterMap id := by
    rw [List.filterMap_map]
    rfl
  rw [given, given, same]

theorem mem_assignments {t : Assignment} :
    t ∈ c.assignments ↔ ∃ a ∈ c.agents, a.assigned = some t := List.mem_filterMap

theorem mem_outstanding {offer : OfferId} :
    offer ∈ c.outstanding ↔ ∃ a ∈ c.agents, a.offered = some offer := List.mem_filterMap

theorem mem_tasks {task : TaskId} : task ∈ c.tasks ↔ ∃ a ∈ c.agents, a.runs task = true := by
  simp only [tasks, List.mem_map, mem_assignments, SimulatedAgent.runs_iff]
  constructor
  · rintro ⟨t, ⟨a, member, has⟩, same⟩
    exact ⟨a, member, t, has, same⟩
  · rintro ⟨a, member, t, has, same⟩
    exact ⟨t, ⟨a, member, has⟩, same⟩

theorem any_hasOffered_iff {offer : OfferId} :
    c.agents.any (hasOffered offer) = true ↔ offer ∈ c.outstanding := by
  simp [mem_outstanding, hasOffered]

/-- There are as many busy agents as tasks. -/
theorem busy_eq (c : Cluster) : c.busy = c.tasks.length := by
  rw [busy, tasks, List.length_map, assignments, List.length_filterMap_eq_countP]

/-- No agent is busy exactly if there are no tasks. -/
theorem busy_eq_zero_iff : c.busy = 0 ↔ c.tasks = [] := by
  rw [busy_eq, List.length_eq_zero_iff]

/-! ## One agent among the others -/

/-- `a` is the first agent that satisfies a test, and stands between others. -/
structure FirstAt (test : SimulatedAgent → Bool) (agents before : List SimulatedAgent)
    (a : SimulatedAgent) (after : List SimulatedAgent) : Prop where
  split : agents = before ++ a :: after
  passes : test a = true
  earlier : ∀ x ∈ before, test x = false

theorem exists_firstAt_of_find? {test : SimulatedAgent → Bool} {agents : List SimulatedAgent}
    {a : SimulatedAgent} (found : agents.find? test = some a) :
    ∃ before after, FirstAt test agents before a after := by
  obtain ⟨passes, before, after, split, earlier⟩ := List.find?_eq_some_iff_append.1 found
  exact ⟨before, after, split, passes, fun x member => by simpa using earlier x member⟩

/-- The first agent that satisfies the test is changed, and no other. -/
theorem FirstAt.changeFirst_eq {test : SimulatedAgent → Bool}
    {agents before after : List SimulatedAgent} {a : SimulatedAgent}
    (h : FirstAt test agents before a after) (change : SimulatedAgent → SimulatedAgent) :
    changeFirst test change agents = before ++ change a :: after := by
  obtain ⟨rfl, passes, earlier⟩ := h
  induction before with
  | nil => rw [List.nil_append, changeFirst, if_pos passes, List.nil_append]
  | cons x rest ih =>
      obtain ⟨first, others⟩ := List.forall_mem_cons.1 earlier
      have fails : ¬ test x = true := Bool.eq_false_iff.1 first
      rw [List.cons_append, changeFirst, if_neg fails, ih others, List.cons_append]

/-- An agent is in place of another. -/
theorem perm_assignments_middle {before after : List SimulatedAgent} {a : SimulatedAgent}
    (split : c.agents = before ++ a :: after) :
    c.assignments.Perm (a.assigned.toList ++ (before ++ after).filterMap (·.assigned)) := by
  rw [assignments, split]
  exact perm_filterMap_middle _ before after a

/-- If one agent has no task and the others are as they were, none has both a task and an offer. -/
theorem Apart.replace {before after : List SimulatedAgent} {a b : SimulatedAgent} {d : Cluster}
    (h : c.Apart) (split : c.agents = before ++ a :: after)
    (replaced : d.agents = before ++ b :: after) (apart : b.offered = none ∨ b.assigned = none) :
    d.Apart := by
  rw [Apart, replaced]
  rw [Apart, split] at h
  intro x member
  rcases List.mem_append.1 member with early | late
  · exact h x (List.mem_append_left _ early)
  · rcases List.mem_cons.1 late with rfl | late
    · exact apart
    · exact h x (List.mem_append_right _ (List.mem_cons_of_mem _ late))

/-! ## Beginnings -/

/-- At the beginning no agent has anything. -/
theorem idle_of_mem_agentsNamed {count : Nat} {a : SimulatedAgent} (h : a ∈ agentsNamed count) :
    a.offered = none ∧ a.assigned = none := by
  obtain ⟨i, -, rfl⟩ := List.mem_map.1 h
  exact ⟨rfl, rfl⟩

theorem assignments_new (count runtime : Nat) : (new count runtime).assignments = [] :=
  List.filterMap_eq_nil_iff.2 fun _ member => (idle_of_mem_agentsNamed member).2

theorem apart_new (count runtime : Nat) : (new count runtime).Apart :=
  fun _ member => .inl (idle_of_mem_agentsNamed member).1

/-! ## Calls -/

/-- What happens to a task that is launched now, unless something happens first. -/
def lifecycle (c : Cluster) (task : TaskId) : List Flight :=
  [⟨c.clock + stagingDelay, .status ⟨task, .staging, none⟩, some c.launches⟩,
    ⟨c.clock + runningDelay, .status ⟨task, .running, none⟩, some c.launches⟩,
    ⟨c.clock + (runningDelay + c.runtime), .status ⟨task, .finished, some "Agent exited"⟩,
      some c.launches⟩]

/-- A launch is refused if its offer is not outstanding; otherwise the agent of the offer has the
task. -/
theorem launch_cases (c : Cluster) (offer : OfferId) (task : Task Float) :
    (offer ∉ c.outstanding ∧ ∃ e, c.launch offer task = (.error e, c)) ∨
    ∃ before a after, FirstAt (hasOffered offer) c.agents before a after ∧
      c.launch offer task = (.ok (), { c with
        agents := before ++
          { a with offered := none, assigned := some ⟨task.id, c.launches⟩ } :: after
        launches := c.launches + 1
        inFlight := c.inFlight ++ c.lifecycle task.id }) := by
  by_cases valid : c.agents.any (hasOffered offer) = true
  · right
    obtain ⟨a, found⟩ := Option.isSome_iff_exists.1 (List.find?_isSome.2 (List.any_eq_true.1 valid))
    obtain ⟨before, after, first⟩ := exists_firstAt_of_find? found
    refine ⟨before, a, after, first, ?_⟩
    simp only [launch, if_pos valid, first.changeFirst_eq, sendLater, lifecycle,
      List.append_assoc, List.cons_append, List.nil_append]
  · left
    exact ⟨fun known => valid (any_hasOffered_iff.2 known), _, if_neg valid⟩

/-- An offer that is outstanding is taken back from its agent; nothing comes of any other. -/
theorem decline_cases (c : Cluster) (offer : OfferId) (refuse : Duration) :
    (offer ∉ c.outstanding ∧ c.decline offer refuse = c) ∨
    ∃ before a after, FirstAt (hasOffered offer) c.agents before a after ∧
      c.decline offer refuse = { c with
        agents := before ++ { a with offered := none } :: after
        inFlight := c.inFlight ++ [⟨c.clock + refuse.millisUp, .idle (some a.id), none⟩] } := by
  cases found : c.agents.find? (hasOffered offer) with
  | none =>
      left
      constructor
      · intro known
        obtain ⟨a, member, has⟩ := mem_outstanding.1 known
        exact List.find?_eq_none.1 found a member (by simp [hasOffered, has])
      · rw [decline, found]
  | some a =>
      right
      obtain ⟨before, after, first⟩ := exists_firstAt_of_find? found
      refine ⟨before, a, after, first, ?_⟩
      rw [decline, found]
      simp only [first.changeFirst_eq, sendLater]

/-- A status for a task that no agent has is not let through. One that is let through changes
nothing unless it ends the task; then the agent of the task has none. -/
theorem observe_cases (c : Cluster) (status : TaskStatus) :
    (status.task ∉ c.tasks ∧ c.observe status = (false, c)) ∨
    (status.task ∈ c.tasks ∧ status.state.isTerminal = false ∧ c.observe status = (true, c)) ∨
    status.state.isTerminal = true ∧
      ∃ before a after, FirstAt (·.runs status.task) c.agents before a after ∧
        c.observe status = (true, { c with
          agents := before ++ { a with assigned := none } :: after
          inFlight := c.inFlight ++ [⟨c.clock, .idle (some a.id), none⟩] }) := by
  cases found : c.agents.find? (·.runs status.task) with
  | none =>
      left
      constructor
      · intro known
        obtain ⟨a, member, runs⟩ := mem_tasks.1 known
        exact List.find?_eq_none.1 found a member runs
      · rw [observe, found]
  | some a =>
      obtain ⟨before, after, first⟩ := exists_firstAt_of_find? found
      have member : a ∈ c.agents := by simp [first.split]
      right
      rw [observe, found]
      cases ends : status.state.isTerminal with
      | false => exact .inl ⟨mem_tasks.2 ⟨a, member, first.passes⟩, rfl, rfl⟩
      | true =>
          refine .inr ⟨rfl, before, a, after, first, ?_⟩
          simp only [if_true, first.changeFirst_eq, sendLater, Nat.add_zero]

/-! ## What calls and events leave alone -/

/-- Only a launch assigns anything, and no call takes an assignment away. -/
theorem assignments_answer {call : Call} (other : ∀ offer task, call ≠ .launch offer task)
    (c : Cluster) : (ClusterDriver.answer call c).2.assignments = c.assignments := by
  cases call with
  | launch offer task => exact absurd rfl (other offer task)
  | decline offer refuse =>
      change (c.decline offer refuse).assignments = c.assignments
      obtain ⟨-, same⟩ | ⟨before, a, after, first, same⟩ := c.decline_cases offer refuse
      · rw [same]
      · rw [same]
        exact assignments_congr (by simp [first.split])
  | stop => exact assignments_congr (by simp [ClusterDriver.answer, disconnect])
  | register | kill | revive => rfl

/-- The assignment of a launch is added to the others. -/
theorem perm_assignments_launch {offer : OfferId} {task : Task Float} (h : c.Apart)
    (ok : (c.launch offer task).1 = .ok ()) :
    (c.launch offer task).2.assignments.Perm (⟨task.id, c.launches⟩ :: c.assignments) := by
  obtain ⟨-, e, refused⟩ | ⟨before, a, after, first, launched⟩ := c.launch_cases offer task
  · rw [refused] at ok
    cases ok
  · have offered : a.offered = some offer := by simpa [hasOffered] using first.passes
    have idle : a.assigned = none := by
      have member : a ∈ c.agents := by simp [first.split]
      rcases h a member with none | none
      · rw [offered] at none
        cases none
      · exact none
    have before' := perm_assignments_middle first.split
    rw [idle] at before'
    rw [launched]
    exact (perm_filterMap_middle _ before after _).trans (before'.symm.cons _)

/-- No call gives an agent with a task an offer, or one with an offer a task that keeps it. -/
theorem Apart.answer (h : c.Apart) (call : Call) : (ClusterDriver.answer call c).2.Apart := by
  cases call with
  | launch offer task =>
      change (c.launch offer task).2.Apart
      obtain ⟨-, e, refused⟩ | ⟨before, a, after, first, launched⟩ := c.launch_cases offer task
      · rw [refused]
        exact h
      · rw [launched]
        exact h.replace first.split rfl (.inl rfl)
  | decline offer refuse =>
      change (c.decline offer refuse).Apart
      obtain ⟨-, same⟩ | ⟨before, a, after, first, same⟩ := c.decline_cases offer refuse
      · rw [same]
        exact h
      · rw [same]
        exact h.replace first.split rfl (.inl rfl)
  | stop =>
      intro a member
      obtain ⟨b, -, rfl⟩ := List.mem_map.1 member
      exact .inl rfl
  | register | kill | revive => exact h

/-- What no call changes: how tasks run, what time it is, which offers were made, and whether
somebody receives the events. -/
theorem answer_frame (call : Call) (c : Cluster) :
    ∃ agents registered frameworkId launches inFlight, (ClusterDriver.answer call c).2 =
      { c with agents, registered, frameworkId, launches, inFlight } := by
  cases call with
  | launch offer task =>
      obtain ⟨-, e, same⟩ | ⟨before, a, after, -, same⟩ := c.launch_cases offer task
      all_goals exact ⟨_, _, _, _, _, congrArg Prod.snd same⟩
  | decline offer refuse =>
      obtain ⟨-, same⟩ | ⟨before, a, after, -, same⟩ := c.decline_cases offer refuse
      all_goals exact ⟨_, _, _, _, _, same⟩
  | register | kill | revive | stop => exact ⟨_, _, _, _, _, rfl⟩

theorem attended_answer (call : Call) (c : Cluster) :
    (ClusterDriver.answer call c).2.attended = c.attended := by
  obtain ⟨_, _, _, _, _, same⟩ := answer_frame call c
  rw [same]

/-- A task that ends is no longer assigned, and no other task is affected. -/
theorem perm_assignments_observe {status : TaskStatus} (ends : status.state.isTerminal = true)
    (known : status.task ∈ c.tasks) :
    ∃ t, t.task = status.task ∧ c.assignments.Perm (t :: (c.observe status).2.assignments) := by
  obtain ⟨unknown, -⟩ | ⟨-, goes, -⟩ | ⟨-, before, a, after, first, ended⟩ :=
    c.observe_cases status
  · exact absurd known unknown
  · rw [ends] at goes
    cases goes
  · obtain ⟨t, has, same⟩ := SimulatedAgent.runs_iff.1 first.passes
    have before' := perm_assignments_middle first.split
    rw [has] at before'
    refine ⟨t, same, before'.trans (.cons t ?_)⟩
    rw [ended]
    exact (perm_filterMap_middle (·.assigned) before after { a with assigned := none }).symm

theorem Apart.observe (h : c.Apart) (status : TaskStatus) : (c.observe status).2.Apart := by
  obtain ⟨-, same⟩ | ⟨-, -, same⟩ | ⟨-, before, a, after, first, same⟩ := c.observe_cases status
  · rw [same]
    exact h
  · rw [same]
    exact h
  · rw [same]
    exact h.replace first.split rfl (.inr rfl)

theorem attended_observe (c : Cluster) (status : TaskStatus) :
    (c.observe status).2.attended = c.attended := by
  obtain ⟨-, same⟩ | ⟨-, -, same⟩ | ⟨-, before, a, after, -, same⟩ := c.observe_cases status
  all_goals rw [same]

/-! ## Offers -/

def offerId (number : Nat) : OfferId := ⟨"offer-" ++ toString number⟩

/-- Agents make offers, and that is all they do. -/
theorem map_assigned_offerFrom (only : Option AgentId) (made : Nat)
    (agents : List SimulatedAgent) :
    (offerFrom only made agents).2.1.map (·.assigned) = agents.map (·.assigned) := by
  induction agents generalizing made with
  | nil => rfl
  | cons a rest ih =>
      rw [offerFrom]
      split <;> simp [ih]

theorem map_id_offerFrom (only : Option AgentId) (made : Nat) (agents : List SimulatedAgent) :
    (offerFrom only made agents).2.1.map (·.id) = agents.map (·.id) := by
  induction agents generalizing made with
  | nil => rfl
  | cons a rest ih =>
      rw [offerFrom]
      split <;> simp [ih]

/-- An agent has made no offer, or it has made one and has no task. -/
theorem mem_offerFrom {only : Option AgentId} {made : Nat} {agents : List SimulatedAgent}
    {b : SimulatedAgent} (member : b ∈ (offerFrom only made agents).2.1) :
    b ∈ agents ∨ b.assigned = none ∧ ∃ o ∈ (offerFrom only made agents).1,
      b.offered = some o.id ∧ o.agent = b.id := by
  induction agents generalizing made with
  | nil => cases member
  | cons a rest ih =>
      rw [offerFrom] at member ⊢
      split at member
      · next idle =>
          rw [if_pos idle]
          rcases List.mem_cons.1 member with rfl | later
          · right
            have none : a.assigned = none := by
              simp only [SimulatedAgent.isIdle, Bool.and_eq_true, Option.isNone_iff_eq_none] at idle
              exact idle.1.1
            exact ⟨none, _, List.mem_cons_self, rfl, rfl⟩
          · obtain old | ⟨none, o, made, has⟩ := ih later
            · exact .inl (List.mem_cons_of_mem _ old)
            · exact .inr ⟨none, o, List.mem_cons_of_mem _ made, has⟩
      · next other =>
          rw [if_neg other]
          rcases List.mem_cons.1 member with rfl | later
          · exact .inl List.mem_cons_self
          · obtain old | new := ih later
            · exact .inl (List.mem_cons_of_mem _ old)
            · exact .inr new

theorem assignments_takeOffers (c : Cluster) (only : Option AgentId) :
    (c.takeOffers only).2.assignments = c.assignments := by
  rw [takeOffers]
  split
  · exact assignments_congr (map_assigned_offerFrom only c.offersMade c.agents)
  · rfl

theorem Apart.takeOffers (h : c.Apart) (only : Option AgentId) : (c.takeOffers only).2.Apart := by
  rw [Cluster.takeOffers]
  split
  · intro b member
    obtain old | ⟨none, -⟩ := mem_offerFrom member
    · exact h b old
    · exact .inr none
  · exact h

theorem attended_takeOffers (c : Cluster) (only : Option AgentId) :
    (c.takeOffers only).2.attended = c.attended := by
  rw [takeOffers]
  split <;> rfl

end Cluster

end OfferDispatch
