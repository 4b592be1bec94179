import Mathlib
import OfferDispatch.Proofs.Agents
import OfferDispatch.Proofs.Calls
import OfferDispatch.Proofs.Disposal

/-!
# The offers that agents stand by

An agent that has made an offer does nothing else until the offer is used, declined or taken back.
So the offers that are outstanding are seen together with their agents. Only the cluster makes
offers, and it numbers them. Calls take offers back and make none; and whenever one is no longer
outstanding, the log shows how it has ended.
-/

namespace OfferDispatch

variable {κ : Type}

/-- Does the offer end with the exchange? It does if it is disposed of, or if all offers are taken
back because the framework disconnects. -/
def Exchange.ends (id : OfferId) : Exchange → Bool
  | .call .stop _ => true
  | e => e.disposes id

namespace Cluster

variable {c d : Cluster}

/-- The offers that are outstanding, with their agents and in the order of these. -/
def pledges (c : Cluster) : List (AgentId × OfferId) :=
  c.agents.filterMap fun a => a.offered.map (a.id, ·)

theorem map_snd_pledges (c : Cluster) : c.pledges.map (·.2) = c.outstanding := by
  rw [pledges, outstanding, List.map_filterMap]
  refine List.filterMap_congr fun a _ => ?_
  cases a.offered <;> rfl

theorem map_fst_pledges_sublist (c : Cluster) :
    (c.pledges.map (·.1)).Sublist (c.agents.map (·.id)) := by
  rw [pledges]
  induction c.agents with
  | nil => exact .slnil
  | cons a rest ih =>
      rw [List.map_cons]
      cases offered : a.offered with
      | none =>
          rw [List.filterMap_cons_none (by rw [offered]; rfl)]
          exact ih.cons _
      | some id =>
          rw [List.filterMap_cons_some (b := (a.id, id)) (by rw [offered]; rfl), List.map_cons]
          exact ih.cons_cons _

theorem pledges_new (count runtime : Nat) : (new count runtime).pledges = [] :=
  List.filterMap_eq_nil_iff.2 fun _ member => by rw [(idle_of_mem_agentsNamed member).1]; rfl

/-! ## Numbers -/

theorem offerId_injective : Function.Injective offerId := by
  intro m n same
  have text : "offer-" ++ toString m = "offer-" ++ toString n := congrArg Name.text same
  exact Nat.repr_inj.1 ((String.append_right_inj _).1 text)

theorem nodup_map_id_new (count runtime : Nat) : ((new count runtime).agents.map (·.id)).Nodup := by
  rw [new, agentsNamed, List.map_map]
  refine List.nodup_range.map fun m n same => ?_
  have text : "agent-" ++ toString m = "agent-" ++ toString n := congrArg Name.text same
  exact Nat.repr_inj.1 ((String.append_right_inj _).1 text)

/-- Offers are numbered one after another. -/
theorem offerFrom_numbers (only : Option AgentId) (made : Nat) (agents : List SimulatedAgent) :
    (offerFrom only made agents).2.2 = made + (offerFrom only made agents).1.length ∧
      (offerFrom only made agents).1.map (·.id) =
        (List.range' (made + 1) (offerFrom only made agents).1.length).map offerId := by
  induction agents generalizing made with
  | nil => exact ⟨rfl, rfl⟩
  | cons a rest ih =>
      rw [offerFrom]
      split
      · obtain ⟨last, numbers⟩ := ih (made + 1)
        refine ⟨?_, ?_⟩
        · rw [last, List.length_cons]
          omega
        · rw [List.map_cons, numbers, List.length_cons, List.range'_succ, List.map_cons]
          rfl
      · exact ih made

/-- If no offer has been outstanding, the pledges are the offers that are made. -/
theorem pledges_offerFrom {agents : List SimulatedAgent} (free : ∀ a ∈ agents, a.offered = none)
    (only : Option AgentId) (made : Nat) :
    (offerFrom only made agents).2.1.filterMap (fun a => a.offered.map (a.id, ·)) =
      (offerFrom only made agents).1.map fun o => (o.agent, o.id) := by
  induction agents generalizing made with
  | nil => rfl
  | cons a rest ih =>
      obtain ⟨first, others⟩ := List.forall_mem_cons.1 free
      rw [offerFrom]
      split
      · simp only [List.filterMap_cons, Option.map_some, List.map_cons, ih others]
        rfl
      · rw [List.filterMap_cons_none (by rw [first]; rfl), ih others]

/-- The offers that are made are outstanding, if none was before, and take up the numbers. -/
theorem takeOffers_spec (only : Option AgentId) (free : c.pledges = []) :
    (c.takeOffers only).2.pledges = (c.takeOffers only).1.map (fun o => (o.agent, o.id)) ∧
      (c.takeOffers only).2.agents.map (·.id) = c.agents.map (·.id) ∧
      (c.takeOffers only).2.offersMade = c.offersMade + (c.takeOffers only).1.length ∧
      (c.takeOffers only).1.map (·.id) =
        (List.range' (c.offersMade + 1) (c.takeOffers only).1.length).map offerId := by
  rw [takeOffers]
  split
  · obtain ⟨last, numbers⟩ := offerFrom_numbers only c.offersMade c.agents
    have none : ∀ a ∈ c.agents, a.offered = none := by
      intro a member
      simpa using List.filterMap_eq_nil_iff.1 free a member
    exact ⟨pledges_offerFrom none only c.offersMade,
      map_id_offerFrom only c.offersMade c.agents, last, numbers⟩
  · exact ⟨free, rfl, rfl, rfl⟩

/-! ## Calls -/

/-- Just one offer is no longer outstanding. -/
def Releases (c d : Cluster) (offer : OfferId) : Prop :=
  ∃ early late agent, c.pledges = early ++ (agent, offer) :: late ∧ d.pledges = early ++ late

/-- The agent of an offer does not stand by it any more, and the others stay as they are. -/
theorem releases_of_firstAt {offer : OfferId} {before after : List SimulatedAgent}
    {a b : SimulatedAgent} (first : FirstAt (hasOffered offer) c.agents before a after)
    (free : b.offered = none) (replaced : d.agents = before ++ b :: after) :
    c.Releases d offer := by
  have has : a.offered = some offer := by simpa [hasOffered] using first.passes
  let pledge (x : SimulatedAgent) : Option (AgentId × OfferId) := x.offered.map (x.id, ·)
  refine ⟨before.filterMap pledge, after.filterMap pledge, a.id, ?_, ?_⟩
  · rw [pledges, first.split, List.filterMap_append, List.filterMap_cons_some]
    rw [has]
    rfl
  · rw [pledges, replaced, List.filterMap_append, List.filterMap_cons_none]
    rw [free]
    rfl

theorem launch_releases (c : Cluster) (offer : OfferId) (task : Task Float) :
    (∃ e, c.launch offer task = (.error e, c)) ∨
      (c.launch offer task).1 = .ok () ∧ c.Releases (c.launch offer task).2 offer := by
  obtain ⟨-, refused⟩ | ⟨before, a, after, first, launched⟩ := c.launch_cases offer task
  · exact .inl refused
  · let b : SimulatedAgent := { a with offered := none, assigned := some ⟨task.id, c.launches⟩ }
    rw [launched]
    exact .inr ⟨rfl, releases_of_firstAt (b := b) first rfl rfl⟩

theorem decline_releases (c : Cluster) (offer : OfferId) (refuse : Duration) :
    (offer ∉ c.outstanding ∧ c.decline offer refuse = c) ∨
      c.Releases (c.decline offer refuse) offer := by
  obtain unknown | ⟨before, a, after, first, declined⟩ := c.decline_cases offer refuse
  · exact .inl unknown
  · rw [declined]
    exact .inr (releases_of_firstAt (b := { a with offered := none }) first rfl rfl)

/-- A call takes back no offer, or it ends one of them, or all. -/
theorem answer_releases (call : Call) (c : Cluster) :
    (ClusterDriver.answer call c).2.pledges = c.pledges ∨
      (∃ offer, c.Releases (ClusterDriver.answer call c).2 offer ∧
        (Exchange.call call (ClusterDriver.answer call c).1).ends offer = true) ∨
      call = .stop ∧ (ClusterDriver.answer call c).2.pledges = [] := by
  cases call with
  | launch offer task =>
      obtain ⟨e, refused⟩ | ⟨ok, released⟩ := c.launch_releases offer task
      · have same : (ClusterDriver.answer (.launch offer task) c).2 = c := congrArg Prod.snd refused
        exact .inl (by rw [same])
      · have answered : (ClusterDriver.answer (.launch offer task) c).1 = .ok () := ok
        refine .inr (.inl ⟨offer, released, ?_⟩)
        rw [answered]
        exact beq_self_eq_true offer
  | decline offer refuse =>
      obtain ⟨-, unchanged⟩ | released := c.decline_releases offer refuse
      · have same : (ClusterDriver.answer (.decline offer refuse) c).2 = c := unchanged
        exact .inl (by rw [same])
      · exact .inr (.inl ⟨offer, released, beq_self_eq_true offer⟩)
  | stop =>
      refine .inr (.inr ⟨rfl, List.filterMap_eq_nil_iff.2 fun a member => ?_⟩)
      obtain ⟨b, -, rfl⟩ := List.mem_map.1 member
      rfl
  | register | kill | revive => exact .inl rfl

theorem map_id_answer (call : Call) (c : Cluster) :
    (ClusterDriver.answer call c).2.agents.map (·.id) = c.agents.map (·.id) := by
  cases call with
  | launch offer task =>
      change (c.launch offer task).2.agents.map (·.id) = _
      obtain ⟨-, e, same⟩ | ⟨before, a, after, first, same⟩ := c.launch_cases offer task
      · rw [same]
      · rw [same, first.split]
        simp
  | decline offer refuse =>
      change (c.decline offer refuse).agents.map (·.id) = _
      obtain ⟨-, same⟩ | ⟨before, a, after, first, same⟩ := c.decline_cases offer refuse
      · rw [same]
      · rw [same, first.split]
        simp
  | stop => simp [ClusterDriver.answer, disconnect]
  | register | kill | revive => rfl

theorem offersMade_answer (call : Call) (c : Cluster) :
    (ClusterDriver.answer call c).2.offersMade = c.offersMade := by
  obtain ⟨_, _, _, _, _, same⟩ := answer_frame call c
  rw [same]

/-- If offers are distinct, the one that is released is not outstanding any more. -/
theorem Releases.not_mem {offer : OfferId} (h : c.Releases d offer)
    (distinct : c.outstanding.Nodup) : offer ∉ d.outstanding := by
  obtain ⟨early, late, agent, whole, rest⟩ := h
  rw [← map_snd_pledges, whole, List.map_append, List.map_cons] at distinct
  rw [← map_snd_pledges, rest, List.map_append]
  exact (List.nodup_middle.1 distinct).notMem

theorem not_mem_outstanding_decline (distinct : c.outstanding.Nodup) (offer : OfferId)
    (refuse : Duration) : offer ∉ (c.decline offer refuse).outstanding := by
  obtain ⟨unknown, same⟩ | released := c.decline_releases offer refuse
  · rwa [same]
  · exact released.not_mem distinct

theorem not_mem_outstanding_launch (distinct : c.outstanding.Nodup) {offer : OfferId}
    {task : Task Float} (ok : (c.launch offer task).1 = .ok ()) :
    offer ∉ (c.launch offer task).2.outstanding := by
  obtain ⟨e, refused⟩ | ⟨-, released⟩ := c.launch_releases offer task
  · rw [refused] at ok
    cases ok
  · exact released.not_mem distinct

/-- A status does not matter to offers. -/
theorem observe_spec (c : Cluster) (status : TaskStatus) :
    (c.observe status).2.pledges = c.pledges ∧
      (c.observe status).2.agents.map (·.id) = c.agents.map (·.id) ∧
      (c.observe status).2.offersMade = c.offersMade := by
  obtain ⟨-, same⟩ | ⟨-, -, same⟩ | ⟨-, before, a, after, first, same⟩ := c.observe_cases status
  · rw [same]
    exact ⟨rfl, rfl, rfl⟩
  · rw [same]
    exact ⟨rfl, rfl, rfl⟩
  · simp [same, pledges, first.split, List.filterMap_cons]

end Cluster

/-! ## Links -/

namespace Link

/-- From one link to another no offers are made, and of those that are no longer outstanding the log
shows how they have ended. -/
structure Lapse (k l : Link Cluster) : Prop where
  log : k.log <+: l.log
  made : l.driver.offersMade = k.driver.offersMade
  agents : l.driver.agents.map (·.id) = k.driver.agents.map (·.id)
  pledges : l.driver.pledges.Sublist k.driver.pledges
  ended : ∀ p ∈ k.driver.pledges,
    p ∈ l.driver.pledges ∨ ∃ e ∈ l.log.drop k.log.length, e.ends p.2 = true

variable {j k l : Link Cluster}

namespace Lapse

theorem refl (k : Link Cluster) : Lapse k k :=
  ⟨List.prefix_rfl, rfl, rfl, .refl _, fun _ => .inl⟩

theorem outstanding (h : Lapse k l) : l.driver.outstanding.Sublist k.driver.outstanding := by
  rw [← Cluster.map_snd_pledges, ← Cluster.map_snd_pledges]
  exact h.pledges.map _

theorem trans (first : Lapse j k) (second : Lapse k l) : Lapse j l := by
  refine ⟨first.log.trans second.log, second.made.trans first.made,
    second.agents.trans first.agents, second.pledges.trans first.pledges, ?_⟩
  intro p before
  obtain still | ⟨e, said, ends⟩ := first.ended p before
  · obtain still | ⟨e, said, ends⟩ := second.ended p still
    · exact .inl still
    · have sooner := List.drop_sublist_drop_left l.log first.log.length_le
      exact .inr ⟨e, sooner.subset said, ends⟩
  · exact .inr ⟨e, (List.IsPrefix.drop second.log _).subset said, ends⟩

theorem call (k : Link Cluster) (c : Call) : Lapse k (k.call c).2 := by
  have said : Exchange.call c (k.call c).1 ∈ (k.call c).2.log.drop k.log.length := by
    rw [log_call, List.drop_left]
    exact List.mem_singleton_self _
  have rest : (k.call c).2.driver.pledges.Sublist k.driver.pledges ∧
      ∀ p ∈ k.driver.pledges, p ∈ (k.call c).2.driver.pledges ∨
        (Exchange.call c (k.call c).1).ends p.2 = true := by
    obtain same | ⟨offer, ⟨early, late, agent, whole, rest⟩, ends⟩ | ⟨rfl, none⟩ :=
      Cluster.answer_releases c k.driver
    · exact ⟨same ▸ .refl _, fun p before => .inl (same ▸ before)⟩
    · rw [whole]
      refine ⟨rest ▸ .append_left (List.sublist_cons_self _ _) early, ?_⟩
      intro p before
      obtain rfl | other := List.mem_cons.1 (List.perm_middle.mem_iff.1 before)
      · exact .inr ends
      · exact .inl (rest ▸ other)
    · exact ⟨none ▸ List.nil_sublist _, fun _ _ => .inr rfl⟩
  refine ⟨⟨_, (log_call k c).symm⟩, Cluster.offersMade_answer c k.driver,
    Cluster.map_id_answer c k.driver, rest.1, ?_⟩
  exact fun p before => (rest.2 p before).imp_right fun ends => ⟨_, said, ends⟩

theorem pause (k : Link Cluster) (attempt : Nat) : Lapse k (k.pause attempt) :=
  ⟨⟨_, (log_pause k attempt).symm⟩, rfl, rfl, .refl _, fun _ => .inl⟩

end Lapse

/-- Whoever only speaks makes no offers, and ends those that are no longer outstanding. -/
theorem Speaks.lapse {may : Call → Prop} (h : Speaks may k l) : Lapse k l := by
  induction h with
  | silent => exact .refl k
  | call _ _ ih => exact ih.trans (.call _ _)
  | pause _ attempt ih => exact ih.trans (.pause _ attempt)

end Link

/-! ## Placing -/

/-- A turn uses its offer up, or has it declined. -/
theorem Turn.used_or_declined (now : Instant) {t : Turn Cluster κ}
    (distinct : t.met.link.driver.outstanding.Nodup) :
    t.offer.id ∉ (t.after now).link.driver.outstanding ∨
      t.offer.id ∈ (t.after now).declines.map (·.1) := by
  cases t.does now with
  | leave _ _ declines | refuse _ _ _ _ _ declines =>
      right
      rw [declines]
      simp
  | launch r rest tried task same answer link =>
      left
      rw [link]
      exact Cluster.not_mem_outstanding_launch distinct answer

/-- Offers that are still outstanding when a batch has been placed have yet to be declined. -/
theorem Placement.mem_declines_foldl_offer {now : Instant} (batch : List (Offer Float))
    {p : Placement Cluster κ} (distinct : p.link.driver.outstanding.Nodup) {o : Offer Float}
    (member : o ∈ batch)
    (still : o.id ∈ (batch.foldl (offer now) p).link.driver.outstanding) :
    o.id ∈ (batch.foldl (offer now) p).declines.map (·.1) := by
  induction batch generalizing p with
  | nil => cases member
  | cons first rest ih =>
      have turned : p.link.Lapse (p.offer now first).link :=
        (Turn.speaks_after now ⟨p, first⟩).lapse
      have others : (p.offer now first).link.Lapse
          (rest.foldl (offer now) (p.offer now first)).link :=
        rel_foldl_offer (R := fun p q => p.link.Lapse q.link) (fun p => .refl p.link) .trans
          (fun t => (t.speaks_after now).lapse) rest (p.offer now first)
      rw [List.foldl_cons] at still ⊢
      obtain rfl | later := List.mem_cons.1 member
      · obtain used | declined := Turn.used_or_declined now (t := ⟨p, o⟩) distinct
        · exact absurd (others.outstanding.subset still) used
        · rw [foldl_offer_eq_append (Turn.declines_after now), List.map_append]
          exact List.mem_append_left _ declined
      · exact ih (distinct.sublist turned.outstanding) later still

theorem Scheduler.mem_declines_place {s : Scheduler Cluster κ} {now : Instant}
    {batch : List (Offer Float)} (distinct : s.session.link.driver.outstanding.Nodup)
    {o : Offer Float} (member : o ∈ batch)
    (still : o.id ∈ (s.place now batch).scheduler.session.link.driver.outstanding) :
    o.id ∈ (s.place now batch).declines.map (·.1) :=
  Placement.mem_declines_foldl_offer (arrangeByAffinity s.affinity batch) (p := ⟨s, [], []⟩)
    distinct ((perm_arrangeByAffinity s.affinity batch).mem_iff.2 member) still

end OfferDispatch
