import Mathlib.Data.List.Dedup
import OfferDispatch.Proofs.IdleSession
import OfferDispatch.Proofs.Settling
import OfferDispatch.Proofs.StaleOffers
import OfferDispatch.Proofs.Unmatched

/-!
# The agents that are remembered

Whenever a launch succeeds, its agent is remembered as the latest, and as many agents are forgotten
as there is no room for. An agent that is forgotten in this way is never missed afterwards: it would
only be remembered again for another launch on it. So the agents that are remembered are at any time
those of all successful launches so far, the latest first and each at its latest launch, as far as
there is room.

Nothing but a successful launch changes them, and this is shown of single actions in whatever order
they are done.
-/

namespace OfferDispatch

/-! ## Who took a task -/

/-- The agent that took a task, if the exchange is a launch that succeeded. -/
def Exchange.host? : Exchange → Option AgentId
  | .call (.launch _ task) (.ok _) => some task.agent
  | _ => none

/-- The agents that took tasks, in the order of the launches. -/
def hosts (log : List Exchange) : List AgentId := log.filterMap Exchange.host?

@[simp] theorem hosts_append (first second : List Exchange) :
    hosts (first ++ second) = hosts first ++ hosts second :=
  List.filterMap_append

theorem hosts_eq_nil {said : List Exchange} (silent : ∀ e ∈ said, e.launch? = none) :
    hosts said = [] := by
  refine List.filterMap_eq_nil_iff.2 fun e member => ?_
  have other := silent e member
  cases e with
  | pause => rfl
  | call c answer =>
      cases c with
      | launch => cases other
      | _ => rfl

/-- The agents of a history, each at its latest appearance, the latest first. -/
def latestFirst (agents : List AgentId) : List AgentId := agents.dedup.reverse

theorem nodup_latestFirst (agents : List AgentId) : (latestFirst agents).Nodup :=
  List.nodup_reverse.2 agents.nodup_dedup

theorem dedup_concat (agents : List AgentId) (agent : AgentId) :
    (agents ++ [agent]).dedup = agents.dedup.filter (· != agent) ++ [agent] := by
  induction agents with
  | nil => rfl
  | cons first rest ih =>
      by_cases again : first ∈ rest
      · rw [List.cons_append, List.dedup_cons_of_mem (List.mem_append_left _ again), ih,
          List.dedup_cons_of_mem again]
      · rw [List.dedup_cons_of_notMem again]
        by_cases same : first = agent
        · subst same
          rw [List.cons_append, List.dedup_cons_of_mem (by simp), ih,
            List.filter_cons_of_neg (by simp)]
        · rw [List.cons_append, List.dedup_cons_of_notMem (by simp [again, same]), ih,
            List.filter_cons_of_pos (by simp [same]), List.cons_append]

/-- One more launch puts its agent first. -/
theorem latestFirst_concat (agents : List AgentId) (agent : AgentId) :
    latestFirst (agents ++ [agent]) = agent :: (latestFirst agents).filter (· != agent) := by
  simp [latestFirst, dedup_concat, List.filter_reverse]

/-! ## Remembering within bounds -/

/-- If one element is left out, it does not matter whether the list was cut to one more before. -/
theorem take_filter_take {agents : List AgentId} (distinct : agents.Nodup) (agent : AgentId)
    (size : Nat) :
    ((agents.take (size + 1)).filter (· != agent)).take size =
      (agents.filter (· != agent)).take size := by
  induction agents generalizing size with
  | nil => rfl
  | cons first rest ih =>
      obtain ⟨apart, others⟩ := List.nodup_cons.1 distinct
      rw [List.take_succ_cons]
      by_cases same : first = agent
      · subst same
        have kept {l : List AgentId} (sub : l ⊆ rest) : l.filter (· != first) = l :=
          List.filter_eq_self.2 fun a member =>
            bne_iff_ne.2 fun equal => apart (equal ▸ sub member)
        rw [List.filter_cons_of_neg (by simp), List.filter_cons_of_neg (by simp),
          kept (List.take_subset _ _), kept (List.Subset.refl _), List.take_take, Nat.min_self]
      · rw [List.filter_cons_of_pos (by simp [same]), List.filter_cons_of_pos (by simp [same])]
        cases size with
        | zero => rfl
        | succ size => rw [List.take_succ_cons, List.take_succ_cons, ih others]

/-- Who is forgotten for want of room is not missed when the next agent is remembered. -/
theorem remember_take_latestFirst (size : Nat) (agents : List AgentId) (agent : AgentId) :
    remember size agent ((latestFirst agents).take size) =
      (latestFirst (agents ++ [agent])).take size := by
  rw [latestFirst_concat, remember]
  cases size with
  | zero => rfl
  | succ size =>
      rw [if_neg (Nat.succ_ne_zero size), List.take_succ_cons, List.take_succ_cons,
        take_filter_take (nodup_latestFirst agents)]

/-- What is remembered after one agent after another has taken a task. -/
def rememberAll (size : Nat) (affinity agents : List AgentId) : List AgentId :=
  agents.foldl (fun known agent => remember size agent known) affinity

@[simp] theorem rememberAll_nil (size : Nat) (affinity : List AgentId) :
    rememberAll size affinity [] = affinity := rfl

theorem rememberAll_append (size : Nat) (affinity first second : List AgentId) :
    rememberAll size affinity (first ++ second) =
      rememberAll size (rememberAll size affinity first) second :=
  List.foldl_append

theorem rememberAll_nil_eq (size : Nat) (agents : List AgentId) :
    rememberAll size [] agents = (latestFirst agents).take size := by
  induction agents using List.reverseRecOn with
  | nil => exact (List.take_nil).symm
  | append_singleton agents agent ih =>
      rw [rememberAll_append, ih, ← remember_take_latestFirst]
      rfl

-- With room for two, an agent that is used again outlasts one that is not.
example : rememberAll 2 [] [⟨"a"⟩, ⟨"b"⟩, ⟨"a"⟩, ⟨"c"⟩] = [⟨"c"⟩, ⟨"a"⟩] := by decide

variable {δ κ : Type} [ClusterDriver δ]

/-! ## Placing -/

namespace Scheduler

/-- From `s` to `t`, the agents that took a task, and no others, have been remembered one after
another. -/
def TakesNote (s t : Scheduler δ κ) : Prop :=
  ∃ said, t.log = s.log ++ said ∧ t.settings = s.settings ∧
    t.affinity = rememberAll s.settings.affinitySize s.affinity (hosts said)

namespace TakesNote

variable {s t u : Scheduler δ κ}

omit [ClusterDriver δ] in
theorem refl (s : Scheduler δ κ) : TakesNote s s := ⟨[], (List.append_nil _).symm, rfl, rfl⟩

omit [ClusterDriver δ] in
theorem trans (first : TakesNote s t) (second : TakesNote t u) : TakesNote s u := by
  obtain ⟨earlier, log, settings, affinity⟩ := first
  obtain ⟨later, log', settings', affinity'⟩ := second
  refine ⟨earlier ++ later, by rw [log', log, List.append_assoc], settings'.trans settings, ?_⟩
  rw [affinity', settings, affinity, hosts_append, rememberAll_append]

omit [ClusterDriver δ] in
/-- Where no launch succeeds, the agents stay as they are. -/
theorem of_silent (said : SaysNoLaunch s.log t.log) (settings : t.settings = s.settings)
    (affinity : t.affinity = s.affinity) : TakesNote s t := by
  obtain ⟨said, log, silent⟩ := said
  refine ⟨said, log, settings, ?_⟩
  rw [hosts_eq_nil silent, rememberAll_nil, affinity]

omit [ClusterDriver δ] in
theorem affinity_eq (h : TakesNote s t) (same : hosts t.log = hosts s.log) :
    t.affinity = s.affinity := by
  obtain ⟨said, log, -, affinity⟩ := h
  rw [log, hosts_append] at same
  rw [affinity, List.append_right_eq_self.1 same, rememberAll_nil]

end TakesNote

end Scheduler

open Scheduler in
/-- In a turn, the agent of its offer is remembered if a launch succeeds. -/
theorem Turn.takesNote_after (now : Instant) (t : Turn δ κ) :
    TakesNote t.met.scheduler (t.after now).scheduler := by
  cases tried : t.attempt? now with
  | none =>
      obtain ⟨unmatched, unused⟩ := after_of_attempt_eq_none tried
      rw [unused]
      exact ⟨[], (List.append_nil _).symm, rfl, rfl⟩
  | some taken =>
      obtain ⟨r, rest⟩ := taken
      have settings := (placed_launch t.met t.offer r rest).settings_eq
      rw [after_of_attempt tried]
      obtain ⟨task, built, log, used⟩ | ⟨declined, log⟩ := t.met.launch_cases t.offer r rest
      · refine ⟨_, log, settings, ?_⟩
        have host : hosts [.call (.launch t.offer.id task) (.ok ())] = [t.offer.agent] :=
          congrArg ([·]) (Launcher.agent_of_build built)
        rw [(Placement.remembered_launch_of_used used).1, host]
        rfl
      · have kept := (Placement.remembered_launch_of_declined declined).1
        obtain log | ⟨task, e, -, log⟩ := log
        · exact ⟨[], log.trans (List.append_nil _).symm, settings, kept⟩
        · exact ⟨_, log, settings, kept⟩

namespace Scheduler

theorem takesNote_place (now : Instant) (s : Scheduler δ κ) (batch : List (Offer Float)) :
    TakesNote s (s.place now batch).scheduler :=
  Placement.rel_foldl_offer (R := fun p q => TakesNote p.scheduler q.scheduler)
    (fun p => .refl p.scheduler) .trans (Turn.takesNote_after now) _ ⟨s, [], []⟩

/-! ## Actions -/

/-- Whoever places no offers leaves the agents alone. -/
theorem affinity_perform_of_batch_eq_nil {env : Surroundings} {s : Scheduler δ κ}
    {action : Action κ} (none : s.batch action = []) :
    (s.perform env action).2.affinity = s.affinity := by
  by_cases minor : action.isMinor = true
  · exact (remembered_perform_of_isMinor minor).1
  cases action with
  | stop => rfl
  | supervise | inspect => exact affinity_supervise env.nodes s
  | place offers =>
      have empty : offers.isEmpty = true := List.isEmpty_iff.2 none
      rw [perform, if_pos empty]
  | turn generation =>
      have empty : s.buffer.drain.1.isEmpty = true := List.isEmpty_iff.2 none
      simp only [perform, turn, if_pos empty]
      split <;> rfl
  | _ => exact absurd rfl minor

/-- Whatever is done, the agents that took a task in it are remembered, and no others. -/
theorem takesNote_perform (env : Surroundings) (s : Scheduler δ κ) (action : Action κ) :
    TakesNote s (s.perform env action).2 := by
  by_cases none : s.batch action = []
  · exact .of_silent (s.saysNoLaunch_perform env none) (settings_perform env s action)
      (affinity_perform_of_batch_eq_nil none)
  cases action with
  | place offers =>
      have some_ : ¬ offers.isEmpty = true := fun empty => none (List.isEmpty_iff.1 empty)
      rw [perform, if_neg some_]
      exact takesNote_place env.now s offers
  | turn generation =>
      have some_ : ¬ s.buffer.drain.1.isEmpty = true := fun empty =>
        none (List.isEmpty_iff.1 empty)
      simp only [perform, turn, if_neg some_]
      split
      · exact takesNote_place env.now { s with buffer := s.buffer.drain.2 } s.buffer.offers
      · exact .refl s
  | _ => exact absurd rfl none

theorem takesNote_acted (s : Scheduler δ κ) (deeds : List (Deed κ)) :
    TakesNote s (s.acted deeds) :=
  acted_preserves (fun env t action before => before.trans (takesNote_perform env t action)) deeds
    (.refl s)

theorem takesNote_run (env : Surroundings) (s : Scheduler δ κ) (o : Operation κ) :
    TakesNote s (s.run env o).scheduler :=
  run_preserves (fun t action before => before.trans (takesNote_perform env t action)) o (.refl s)

/-- Only operations that place offers try launches. -/
theorem launches_run_of_not_isPlacing (env : Surroundings) (s : Scheduler δ κ) {o : Operation κ}
    (other : o.isPlacing = false) : (s.run env o).scheduler.launches = s.launches := by
  cases o with
  | request spec callback => exact (keeps_run_request env s spec callback).2
  | cancel worker => exact launches_run_cancel env s worker
  | status status => exact (keeps_run_status env s status).2
  | error | stop => exact launches_stop s
  | supervise => exact launches_supervise env.nodes s
  | rescind | registered | remark => rfl
  | offers | process | turn => cases other

/-- Operations that place no offers leave the agents alone. -/
theorem affinity_run_of_not_isPlacing (env : Surroundings) (s : Scheduler δ κ) {o : Operation κ}
    (other : o.isPlacing = false) : (s.run env o).scheduler.affinity = s.affinity := by
  obtain ⟨said, log, silent⟩ := SaysNoLaunch.of_launches (log_prefix_run env s o)
    (launches_run_of_not_isPlacing env s other)
  have same : (s.run env o).scheduler.log = s.log ++ said := log
  refine (takesNote_run env s o).affinity_eq ?_
  rw [same, hosts_append, hosts_eq_nil silent, List.append_nil]

/-- Whatever has been done, in whatever order, the agents that are remembered are those of all
launches that succeeded, the latest first and each at its latest launch, as far as there is room.
They are left alone by anything that places no offers or in which no launch succeeds. -/
theorem affinity_is_latest_first (settings : SchedulerSettings) (session : Session δ)
    (deeds : List (Deed κ)) :
    let s := (new settings session).acted deeds
    s.affinity.Nodup ∧ s.affinity.length ≤ settings.affinitySize ∧
      (∃ said, s.log = session.link.log ++ said ∧
        s.affinity = (latestFirst (hosts said)).take settings.affinitySize) ∧
      (∀ env action,
        s.batch action = [] ∨ hosts (s.perform env action).2.log = hosts s.log →
          (s.perform env action).2.affinity = s.affinity) ∧
      ∀ env o,
        o.isPlacing = false ∨ hosts (s.run env o).scheduler.log = hosts s.log →
          (s.run env o).scheduler.affinity = s.affinity := by
  intro s
  obtain ⟨said, log, -, affinity⟩ := takesNote_acted (new settings session : Scheduler δ κ) deeds
  have latest : s.affinity = (latestFirst (hosts said)).take settings.affinitySize :=
    affinity.trans (rememberAll_nil_eq _ _)
  refine ⟨?_, ?_, ⟨said, log, latest⟩, ?_, ?_⟩
  · rw [latest]
    exact (nodup_latestFirst _).sublist (List.take_sublist _ _)
  · rw [latest]
    exact List.length_take_le _ _
  · rintro env action (none | same)
    · exact affinity_perform_of_batch_eq_nil none
    · exact (takesNote_perform env s action).affinity_eq same
  · rintro env o (other | same)
    · exact affinity_run_of_not_isPlacing env s other
    · exact (takesNote_run env s o).affinity_eq same

end Scheduler

end OfferDispatch
