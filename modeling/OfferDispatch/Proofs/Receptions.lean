import OfferDispatch.Proofs.Pledges
import OfferDispatch.Proofs.Rehearsals

/-!
# How offers are received

Whoever receives the events of a cluster takes up one at a time, and goes on to the next when there
is nothing left to do with the last. Meanwhile hosts act as they please: between the moment in which
the cluster makes offers and the one in which the last of them has been placed, requests are made
and given up, and the session is stopped and started again.

All the same no offer is forgotten. With a single thread, nobody but the receiver has business in
the buffer, so that every offer that is outstanding is one that the receiver goes on to dispose of:
it is yet to be buffered, or waits to be taken out of the buffer, to be placed, or to be declined.
When nothing is left to do, no offer is outstanding.
-/

namespace OfferDispatch

variable {κ : Type}

/-! ## What is yet to be done with an offer -/

/-- Does the action not take offers out of the buffer, or takes all of them and leaves them to the
same caller? -/
def Action.isReceiving : Action κ → Bool
  | .rescind _ | .turn _ => false
  | _ => true

/-- An offer is yet to be disposed of, if certain others are in the buffer and certain actions are
left to do. -/
inductive Pends (id : OfferId) (buffered : List (Offer Float)) (left : List (Action κ)) : Prop
  | delivered {o : Offer Float} (named : o.id = id) (accepts : [.accept o, .drain].Sublist left)
  | buffered {o : Offer Float} (named : o.id = id) (waits : o ∈ buffered) (drains : .drain ∈ left)
  | drained {o : Offer Float} {batch : List (Offer Float)} (named : o.id = id) (waits : o ∈ batch)
      (places : .place batch ∈ left)
  | unused {refuse : Duration} (declines : .decline id refuse ∈ left)

/-- The next action deals with an offer, if certain others are in the buffer and certain actions are
left to do after it. -/
inductive Action.Deals (id : OfferId) (buffered : List (Offer Float)) (rest : List (Action κ)) :
    Action κ → Prop
  | accept {o : Offer Float} (named : o.id = id) (drains : .drain ∈ rest) :
      Deals id buffered rest (.accept o)
  | drain {o : Offer Float} (named : o.id = id) (waits : o ∈ buffered) :
      Deals id buffered rest .drain
  | place {o : Offer Float} {batch : List (Offer Float)} (named : o.id = id) (waits : o ∈ batch) :
      Deals id buffered rest (.place batch)
  | decline (refuse : Duration) : Deals id buffered rest (.decline id refuse)

namespace Pends

variable {id : OfferId} {buffered more : List (Offer Float)} {left rest : List (Action κ)}
  {action : Action κ}

theorem mono (h : Pends id buffered left) (sub : left.Sublist rest)
    (grows : ∀ o ∈ buffered, o ∈ more) : Pends id more rest := by
  cases h with
  | delivered named accepts => exact .delivered named (accepts.trans sub)
  | buffered named waits drains => exact .buffered named (grows _ waits) (sub.subset drains)
  | drained named waits places => exact .drained named waits (sub.subset places)
  | unused declines => exact .unused (sub.subset declines)

/-- It is the next action that deals with the offer, or a later one. -/
theorem deals_or_later (h : Pends id buffered (action :: rest)) :
    action.Deals id buffered rest ∨ Pends id buffered rest := by
  cases h with
  | delivered named accepts =>
      cases accepts with
      | cons _ later => exact .inr (.delivered named later)
      | cons_cons _ drains => exact .inl (.accept named (List.singleton_sublist.1 drains))
  | buffered named waits drains =>
      obtain rfl | later := List.mem_cons.1 drains
      · exact .inl (.drain named waits)
      · exact .inr (.buffered named waits later)
  | drained named waits places =>
      obtain rfl | later := List.mem_cons.1 places
      · exact .inl (.place named waits)
      · exact .inr (.drained named waits later)
  | unused declines =>
      obtain rfl | later := List.mem_cons.1 declines
      · exact .inl (.decline _)
      · exact .inr (.unused later)

theorem not_nil : ¬ Pends id buffered ([] : List (Action κ)) := by
  intro h
  cases h with
  | delivered _ accepts => cases accepts
  | buffered _ _ drains => cases drains
  | drained _ _ places => cases places
  | unused declines => cases declines

end Pends

namespace Scheduler

variable {s : Scheduler Cluster κ}

/-- If the next action deals with an offer that is still outstanding afterwards, it leaves the offer
to be dealt with later. -/
theorem pends_of_deals (env : Surroundings) {action : Action κ} {rest : List (Action κ)}
    (distinct : s.cluster.outstanding.Nodup) {id : OfferId}
    (deals : action.Deals id s.buffer.offers rest)
    (still : id ∈ (s.perform env action).2.cluster.outstanding) :
    Pends id (s.perform env action).2.buffer.offers ((s.perform env action).1 ++ rest) := by
  cases deals with
  | @accept o named drains =>
      by_cases full : s.buffer.isFull = true
      · simp only [perform, accept_of_isFull full, ← named] at still
        exact absurd still (Cluster.not_mem_outstanding_decline distinct o.id shortDecline)
      · have waits : o ∈ (s.buffer.enqueue o).2.offers := by
          rw [OfferBuffer.enqueue, if_neg full]
          exact List.mem_append_right _ List.mem_cons_self
        simp only [perform, accept_of_not_isFull full]
        exact .buffered named waits drains
  | drain named waits => exact .drained named waits List.mem_cons_self
  | @place o batch named waits =>
      have some_ : ¬ batch.isEmpty = true := by
        rw [List.isEmpty_iff]
        exact List.ne_nil_of_mem waits
      simp only [perform, if_neg some_, placed, ← named] at still ⊢
      obtain ⟨d, declined, same⟩ := List.mem_map.1 (mem_declines_place distinct waits still)
      have follows : Action.decline d.1 d.2 ∈
          ((s.place env.now batch).declines.map fun d => .decline d.1 d.2) ++
            (s.place env.now batch).notices.map (.tell (κ := κ)) :=
        List.mem_append_left _ (List.mem_map.2 ⟨d, declined, rfl⟩)
      exact .unused (same ▸ List.mem_append_left rest follows)
  | decline refuse => exact absurd still (Cluster.not_mem_outstanding_decline distinct id refuse)

/-- An offer that is left to later actions is still left to them when the next one is done. -/
theorem pends_of_later (env : Surroundings) {action : Action κ} {rest : List (Action κ)}
    (receiving : action.isReceiving = true) {id : OfferId} (h : Pends id s.buffer.offers rest) :
    Pends id (s.perform env action).2.buffer.offers ((s.perform env action).1 ++ rest) := by
  have later (grows : ∀ o ∈ s.buffer.offers, o ∈ (s.perform env action).2.buffer.offers) :
      Pends id (s.perform env action).2.buffer.offers ((s.perform env action).1 ++ rest) :=
    h.mono (List.sublist_append_right _ _) grows
  cases action with
  | accept o =>
      refine later fun other waits => ?_
      by_cases full : s.buffer.isFull = true
      · simp only [perform, accept_of_isFull full]
        exact waits
      · simp only [perform, accept_of_not_isFull full, OfferBuffer.enqueue, if_neg full]
        exact List.mem_append_left _ waits
  | drain =>
      -- Nothing is in the buffer any more, but what was in it is placed next.
      cases h with
      | buffered named waits => exact .drained named waits List.mem_cons_self
      | delivered named accepts => exact .delivered named (accepts.cons _)
      | drained named waits places => exact .drained named waits (List.mem_cons_of_mem _ places)
      | unused declines => exact .unused (List.mem_cons_of_mem _ declines)
  | rescind | turn => cases receiving
  | _ =>
      refine later fun o waits => ?_
      rw [buffer_perform env s rfl]
      exact waits

end Scheduler

/-! ## Accounts of offers -/

/-- An offer that was made, and how much had been said by then. -/
structure Issue where
  offer : Offer Float
  said : Nat

/-- The offers that were made are known, and which of them are outstanding, and how the others have
ended. -/
structure Scheduler.Accounts (s : Scheduler Cluster κ) (issued : List Issue) : Prop where
  agents : (s.cluster.agents.map (·.id)).Nodup
  numbers : issued.map (·.offer.id) = (List.range' 1 s.cluster.offersMade).map Cluster.offerId
  distinct : s.cluster.outstanding.Nodup
  owned : ∀ p ∈ s.cluster.pledges, ∃ i ∈ issued, i.offer.agent = p.1 ∧ i.offer.id = p.2
  said : ∀ i ∈ issued, i.said ≤ s.log.length
  ended : ∀ i ∈ issued, (i.offer.agent, i.offer.id) ∈ s.cluster.pledges ∨
    ∃ e ∈ s.log.drop i.said, e.ends i.offer.id = true

namespace Scheduler.Accounts

variable {s t : Scheduler Cluster κ} {issued : List Issue}

/-- What is only spoken keeps the account. -/
theorem lapse (h : s.Accounts issued) (spoken : s.session.link.Lapse t.session.link) :
    t.Accounts issued where
  agents := by
    have same : t.cluster.agents.map (·.id) = s.cluster.agents.map (·.id) := spoken.agents
    rw [same]
    exact h.agents
  numbers := by
    have same : t.cluster.offersMade = s.cluster.offersMade := spoken.made
    rw [same]
    exact h.numbers
  distinct := h.distinct.sublist spoken.outstanding
  owned p pledged := h.owned p (spoken.pledges.subset pledged)
  said i member := (h.said i member).trans spoken.log.length_le
  ended i member := by
    have sooner := List.drop_sublist_drop_left t.log (h.said i member)
    obtain still | ⟨e, said, ends⟩ := h.ended i member
    · exact (spoken.ended _ still).imp_right
        fun ⟨e, said, ends⟩ => ⟨e, sooner.subset said, ends⟩
    · exact .inr ⟨e, (List.IsPrefix.drop spoken.log i.said).subset said, ends⟩

theorem perform (h : s.Accounts issued) (env : Surroundings) (action : Action κ) :
    (s.perform env action).2.Accounts issued :=
  h.lapse (s.speaks_perform env action).lapse

/-- What else becomes of the cluster does not matter. -/
theorem withCluster (h : s.Accounts issued) {c : Cluster}
    (agents : c.agents.map (·.id) = s.cluster.agents.map (·.id))
    (made : c.offersMade = s.cluster.offersMade) (pledges : c.pledges = s.cluster.pledges) :
    (s.withCluster c).Accounts issued :=
  h.lapse ⟨List.prefix_rfl, made, agents, pledges ▸ .refl _,
    fun _ pledged => .inl (pledges ▸ pledged)⟩

/-- The offers that the cluster makes are added, if no others are outstanding. -/
theorem takeOffers (h : s.Accounts issued) (free : s.cluster.pledges = [])
    (only : Option AgentId) :
    (s.withCluster (s.cluster.takeOffers only).2).Accounts
      (issued ++ (s.cluster.takeOffers only).1.map (⟨·, s.log.length⟩)) := by
  obtain ⟨pledges, agents, made, numbers⟩ := Cluster.takeOffers_spec only free
  have outstanding : (s.cluster.takeOffers only).2.outstanding =
      (s.cluster.takeOffers only).1.map (·.id) := by
    rw [← Cluster.map_snd_pledges, pledges, List.map_map]
    rfl
  refine ⟨?_, ?_, ?_, ?_, ?_, ?_⟩
  · rw [cluster_withCluster, agents]
    exact h.agents
  · rw [cluster_withCluster, made, List.map_append, h.numbers, List.map_map]
    have new : ((s.cluster.takeOffers only).1.map
        ((·.offer.id) ∘ fun o : Offer Float => (⟨o, s.log.length⟩ : Issue))) =
          (s.cluster.takeOffers only).1.map (·.id) := rfl
    rw [new, numbers, ← List.map_append, Nat.add_comm s.cluster.offersMade 1,
      List.range'_append_1]
  · rw [cluster_withCluster, outstanding, numbers]
    exact (List.nodup_range' ..).map Cluster.offerId_injective
  · rw [cluster_withCluster, pledges]
    intro p pledged
    obtain ⟨o, made, rfl⟩ := List.mem_map.1 pledged
    exact ⟨⟨o, s.log.length⟩, List.mem_append_right _ (List.mem_map_of_mem made), rfl, rfl⟩
  · intro i member
    rcases List.mem_append.1 member with old | new
    · exact h.said i old
    · obtain ⟨o, -, rfl⟩ := List.mem_map.1 new
      exact le_rfl
  · intro i member
    rcases List.mem_append.1 member with old | new
    · right
      obtain still | ended := h.ended i old
      · rw [free] at still
        cases still
      · exact ended
    · left
      obtain ⟨o, made, rfl⟩ := List.mem_map.1 new
      rw [cluster_withCluster, pledges]
      exact List.mem_map.2 ⟨o, made, rfl⟩

/-- No offer was made twice. -/
theorem nodup (h : s.Accounts issued) : (issued.map (·.offer.id)).Nodup := by
  rw [h.numbers]
  exact (List.nodup_range' ..).map Cluster.offerId_injective

/-- No agent has two offers outstanding. -/
theorem nodup_agents (h : s.Accounts issued) : (s.cluster.pledges.map (·.1)).Nodup :=
  h.agents.sublist s.cluster.map_fst_pledges_sublist

theorem new (settings : SchedulerSettings) (count runtime : Nat) (info : FrameworkInfo)
    (attempts : Nat) :
    Accounts (Scheduler.new (κ := κ) settings (.new (.new count runtime) info attempts)) [] := by
  have none : (Cluster.new count runtime).pledges = [] := Cluster.pledges_new count runtime
  refine ⟨Cluster.nodup_map_id_new count runtime, rfl, ?_, ?_, List.forall_mem_nil _,
    List.forall_mem_nil _⟩
  · change (Cluster.new count runtime).outstanding.Nodup
    rw [← Cluster.map_snd_pledges, none]
    exact List.nodup_nil
  · change ∀ p ∈ (Cluster.new count runtime).pledges, _
    rw [none]
    exact List.forall_mem_nil _

end Scheduler.Accounts

/-! ## Receptions -/

/-- A receiver of events at work: the scheduler, what is left to do with the last event, and the
offers that were made so far. -/
structure Reception (κ : Type) extends Work Cluster κ where
  issued : List Issue := []

inductive Cue (κ : Type)
  /-- An event arrives, which need not be in flight: it may have arrived before. -/
  | arrive (event : ClusterEvent)
  /-- The event at a position of those in flight arrives, if there is one. -/
  | land (position : Nat)
  /-- The receiver does the next action. -/
  | proceed (env : Surroundings)
  /-- Somebody else acts, and has no business in the buffer. -/
  | act (env : Surroundings) (action : Action κ) (apart : action.movesOffers = false)
  | wait (millis : Nat)

namespace Reception

def cluster (r : Reception κ) : Cluster := r.scheduler.cluster

/-- The receiver takes an event up. -/
def take (r : Reception κ) : ClusterEvent → Reception κ
  | .registered id => { r with left := (Operation.registered id).agenda r.scheduler.settings }
  | .idle agent =>
    let taken := r.cluster.takeOffers agent
    { scheduler := r.scheduler.withCluster taken.2
      left := if taken.1.isEmpty then [] else (Operation.offers taken.1).agenda r.scheduler.settings
      issued := r.issued ++ taken.1.map (⟨·, r.scheduler.log.length⟩) }
  | .status status =>
    let observed := r.cluster.observe status
    { r with
      scheduler := r.scheduler.withCluster observed.2
      left := if observed.1 then (Operation.status status).agenda r.scheduler.settings else [] }

/-- The reception after something has happened. An event has to wait until nothing is left to do
with the one before. -/
def step (r : Reception κ) : Cue κ → Reception κ
  | .arrive event => if r.left.isEmpty then r.take event else r
  | .land position =>
    match r.left, r.cluster.inFlight[position]? with
    | [], some flight =>
      let c := { r.cluster with inFlight := r.cluster.inFlight.eraseIdx position }
      take { r with scheduler := r.scheduler.withCluster c } flight.event
    | _, _ => r
  | .proceed env => { r with toWork := r.toWork.next env }
  | .act env action _ => { r with scheduler := (r.scheduler.perform env action).2 }
  | .wait millis =>
    { r with scheduler :=
      r.scheduler.withCluster { r.cluster with clock := r.cluster.clock + millis } }

def after (r : Reception κ) (cues : List (Cue κ)) : Reception κ := cues.foldl step r

def new (s : Scheduler Cluster κ) : Reception κ := { scheduler := s, left := [] }

/-- No offer is forgotten: the account is in order, and of each offer that is outstanding it is left
to dispose. -/
structure Tidy (r : Reception κ) : Prop where
  single : r.scheduler.settings.multiThreaded = false
  accounts : r.scheduler.Accounts r.issued
  pending : ∀ id ∈ r.cluster.outstanding, Pends id r.scheduler.buffer.offers r.left
  receiving : ∀ action ∈ r.left, action.isReceiving = true

namespace Tidy

variable {r : Reception κ}

/-- When nothing is left to do, no offer is outstanding. -/
theorem pledges_eq_nil (h : r.Tidy) (done : r.left = []) : r.cluster.pledges = [] := by
  rw [← List.map_eq_nil_iff (f := (·.2)), Cluster.map_snd_pledges, List.eq_nil_iff_forall_not_mem]
  intro id still
  have pends := h.pending id still
  rw [done] at pends
  exact pends.not_nil

/-- If no offer is outstanding, whatever the receiver goes on with is in order. -/
theorem of_pledges_eq_nil (single : r.scheduler.settings.multiThreaded = false)
    (accounts : r.scheduler.Accounts r.issued) (free : r.cluster.pledges = [])
    (receiving : ∀ action ∈ r.left, action.isReceiving = true) : r.Tidy := by
  refine ⟨single, accounts, ?_, receiving⟩
  rw [← Cluster.map_snd_pledges, free]
  exact List.forall_mem_nil _

/-- What else becomes of the cluster does not matter. -/
theorem withCluster (h : r.Tidy) {c : Cluster}
    (agents : c.agents.map (·.id) = r.cluster.agents.map (·.id))
    (made : c.offersMade = r.cluster.offersMade) (pledges : c.pledges = r.cluster.pledges) :
    Tidy { r with scheduler := r.scheduler.withCluster c } where
  single := h.single
  accounts := h.accounts.withCluster agents made pledges
  pending id still := by
    have same : c.outstanding = r.cluster.outstanding := by
      rw [← Cluster.map_snd_pledges, ← Cluster.map_snd_pledges, pledges]
    have before : id ∈ c.outstanding := still
    rw [same] at before
    exact h.pending id before
  receiving := h.receiving

/-- Others do not take away what the receiver has to do. -/
theorem act (h : r.Tidy) (env : Surroundings) {action : Action κ}
    (apart : action.movesOffers = false) : (r.step (.act env action apart)).Tidy where
  single := by
    have same := r.scheduler.settings_perform env action
    exact (congrArg (·.multiThreaded) same).trans h.single
  accounts := h.accounts.perform env action
  pending id still := by
    have lapse := (r.scheduler.speaks_perform env action).lapse
    have pends := h.pending id (lapse.outstanding.subset still)
    refine pends.mono (.refl _) ?_
    have same : (r.scheduler.perform env action).2.buffer = r.scheduler.buffer :=
      Scheduler.buffer_perform env r.scheduler apart
    change ∀ o ∈ r.scheduler.buffer.offers, o ∈ (r.scheduler.perform env action).2.buffer.offers
    rw [same]
    exact fun _ waits => waits
  receiving := h.receiving

theorem proceed (h : r.Tidy) (env : Surroundings) : (r.step (.proceed env)).Tidy := by
  obtain ⟨⟨s, left⟩, issued⟩ := r
  cases left with
  | nil => exact h
  | cons action rest =>
      obtain ⟨first, others⟩ := List.forall_mem_cons.1 h.receiving
      refine ⟨?_, h.accounts.perform env action, ?_, ?_⟩
      · exact (congrArg (·.multiThreaded) (s.settings_perform env action)).trans h.single
      · intro id still
        have lapse := (s.speaks_perform env action).lapse
        have pends := h.pending id (lapse.outstanding.subset still)
        obtain deals | later := pends.deals_or_later
        · exact Scheduler.pends_of_deals env h.accounts.distinct deals still
        · exact Scheduler.pends_of_later env first later
      · refine List.forall_mem_append.2 ⟨fun next follows => ?_, others⟩
        have later := Scheduler.isInitial_of_mem_perform follows
        cases next with
        | rescind | turn => cases later
        | _ => rfl

/-- The offers that agents make are yet to be disposed of. -/
theorem takeOffers (h : r.Tidy) (done : r.left = []) (agent : Option AgentId) :
    (r.take (.idle agent)).Tidy := by
  have free := h.pledges_eq_nil done
  obtain ⟨pledges, -⟩ := Cluster.takeOffers_spec agent free
  refine ⟨h.single, h.accounts.takeOffers free agent, ?_, ?_⟩
  · intro id still
    have taken : id ∈ (r.cluster.takeOffers agent).2.outstanding := still
    rw [← Cluster.map_snd_pledges, pledges, List.map_map] at taken
    obtain ⟨o, made, named⟩ := List.mem_map.1 taken
    have some_ : ¬ (r.cluster.takeOffers agent).1.isEmpty = true := by
      rw [List.isEmpty_iff]
      exact List.ne_nil_of_mem made
    have accepts : [Action.accept o].Sublist
        ((r.cluster.takeOffers agent).1.map (.accept (κ := κ))) :=
      List.singleton_sublist.2 (List.mem_map_of_mem made)
    have agenda : [.accept o, .drain].Sublist (r.take (.idle agent)).left := by
      simp only [Reception.take, if_neg some_, Operation.agenda, h.single]
      exact (accepts.append (.refl [.drain])).trans (List.sublist_append_left _ _)
    exact .delivered named agenda
  · intro action member
    simp only [Reception.take] at member
    split at member
    · cases member
    · have kinds : (∃ o ∈ (r.cluster.takeOffers agent).1, .accept o = action) ∨
          action = .drain ∨ action = .answer .done := by
        simpa [Operation.agenda, h.single] using member
      obtain ⟨o, -, rfl⟩ | rfl | rfl := kinds <;> rfl

/-- The receiver takes an event up when nothing is left to do with the one before. -/
theorem take (h : r.Tidy) (done : r.left = []) (event : ClusterEvent) : (r.take event).Tidy := by
  have free := h.pledges_eq_nil done
  cases event with
  | registered id =>
      refine of_pledges_eq_nil h.single h.accounts free ?_
      simp [Reception.take, Operation.agenda, Action.isReceiving]
  | idle agent => exact h.takeOffers done agent
  | status status =>
      obtain ⟨pledges, agents, made⟩ := r.cluster.observe_spec status
      refine of_pledges_eq_nil h.single (h.accounts.withCluster agents made pledges)
        (pledges.trans free) ?_
      intro action member
      simp only [Reception.take] at member
      split at member
      · obtain rfl := List.mem_singleton.1 member
        rfl
      · cases member

theorem step (h : r.Tidy) (c : Cue κ) : (r.step c).Tidy := by
  cases c with
  | arrive event =>
      simp only [Reception.step]
      split
      · next done => exact h.take (List.isEmpty_iff.1 done) event
      · exact h
  | land position =>
      simp only [Reception.step]
      split
      · next flight done _ =>
          let c := { r.cluster with inFlight := r.cluster.inFlight.eraseIdx position }
          have landed : Tidy { r with scheduler := r.scheduler.withCluster c } :=
            h.withCluster rfl rfl rfl
          exact landed.take done flight.event
      · exact h
  | proceed env => exact h.proceed env
  | act env action apart => exact h.act env apart
  | wait millis => exact h.withCluster rfl rfl rfl

theorem after (h : r.Tidy) (cues : List (Cue κ)) : (r.after cues).Tidy :=
  List.foldlRecOn cues Reception.step h fun _ tidy c _ => tidy.step c

/-- What the receiver does keeps things in order, however far it goes. -/
theorem leads {env : Surroundings} {w : Work Cluster κ} (h : r.Tidy)
    (leads : Work.Leads env r.toWork w) : Tidy { r with toWork := w } := by
  induction leads with
  | refl => exact h
  | tail _ next ih => exact next ▸ ih.proceed env

theorem new {s : Scheduler Cluster κ} (single : s.settings.multiThreaded = false)
    (accounts : s.Accounts []) (free : s.cluster.pledges = []) : (Reception.new s).Tidy :=
  of_pledges_eq_nil single accounts free (List.forall_mem_nil _)

end Tidy

/-- Whatever the receiver is led to, it gets there by going on. -/
theorem exists_after_eq (r : Reception κ) {env : Surroundings} {w : Work Cluster κ}
    (leads : Work.Leads env r.toWork w) :
    ∃ n, (r.after (.replicate n (.proceed env))).toWork = w := by
  induction leads with
  | refl => exact ⟨0, rfl⟩
  | tail _ next ih =>
      obtain ⟨n, rfl⟩ := ih
      refine ⟨n + 1, ?_⟩
      rw [List.replicate_succ', after, List.foldl_append]
      exact next

/-- With a single thread, offers are made but once, those that are outstanding are distinct, and no
agent has two of them. Each offer that was made is outstanding, or else a task has been launched on
it, it has been declined, or the framework has disconnected since. None is outstanding when nothing
is left to do with the last event, and it comes to that. -/
theorem no_offer_forgotten (count runtime : Nat) (info : FrameworkInfo) (attempts : Nat)
    (settings : SchedulerSettings) (single : settings.multiThreaded = false)
    (cues : List (Cue κ)) :
    let r := (new (.new settings (.new (.new count runtime) info attempts))).after cues
    (r.issued.map (·.offer.id)).Nodup ∧
    (r.cluster.pledges.map (·.2)).Nodup ∧ (r.cluster.pledges.map (·.1)).Nodup ∧
    (∀ p ∈ r.cluster.pledges, ∃ i ∈ r.issued, i.offer.agent = p.1 ∧ i.offer.id = p.2) ∧
    (∀ i ∈ r.issued, (i.offer.agent, i.offer.id) ∈ r.cluster.pledges ∨
      ∃ e ∈ r.scheduler.log.drop i.said, e.ends i.offer.id = true) ∧
    (r.left = [] → r.cluster.pledges = []) ∧
    ∀ env, ∃ n, (r.after (.replicate n (.proceed env))).left = [] := by
  intro r
  have start : (new (κ := κ) (.new settings (.new (.new count runtime) info attempts))).Tidy :=
    .new single (.new settings count runtime info attempts) (Cluster.pledges_new count runtime)
  have tidy : r.Tidy := start.after cues
  have accounts := tidy.accounts
  have distinct : (r.cluster.pledges.map (·.2)).Nodup := by
    rw [Cluster.map_snd_pledges]
    exact accounts.distinct
  refine ⟨accounts.nodup, distinct, accounts.nodup_agents, accounts.owned, accounts.ended,
    tidy.pledges_eq_nil, fun env => ?_⟩
  obtain ⟨n, done⟩ := r.exists_after_eq (Work.leads_carryOut env r.scheduler r.left)
  exact ⟨n, congrArg Work.left done⟩

end Reception

namespace Plain

/-- With two agents, a worker is asked for, and both agents make offers. One offer is buffered. Then
the session is stopped, and another worker is asked for, which starts it again. -/
def interruption : List (Cue Unit) :=
  [.act moment (.enlist ⟨worker "v", ()⟩) rfl, .act moment (.connect ⟨"v"⟩) rfl, .land 1,
    .proceed moment, .act moment .stop rfl, .act moment (.enlist ⟨worker "w", ()⟩) rfl,
    .act moment (.connect ⟨"w"⟩) rfl]

/-- Then the receiver goes on. It buffers the other offer and places both, which are not outstanding
any more. -/
def resumption : List (Cue Unit) := .replicate 8 (.proceed moment)

theorem no_offer_forgotten_interruption :
    let start : Reception Unit := .new (.new {} (.new (.new 2 2000) ⟨"", "", "", "", none⟩ 1))
    let r := start.after (interruption ++ resumption)
    r.issued.map (·.offer.id) = [Cluster.offerId 1, Cluster.offerId 2] ∧ r.left = [] ∧
      r.cluster.pledges = [] := by
  intro start r
  obtain ⟨-, -, -, -, -, none, -⟩ :=
    Reception.no_offer_forgotten (κ := Unit) 2 2000 ⟨"", "", "", "", none⟩ 1 {} rfl
      (interruption ++ resumption)
  have made : r.issued.map (·.offer.id) = [Cluster.offerId 1, Cluster.offerId 2] := by
    decide +kernel
  have done : r.left.isEmpty = true := by decide +kernel
  exact ⟨made, List.isEmpty_iff.1 done, none (List.isEmpty_iff.1 done)⟩

end Plain

/-! ## Rehearsals -/

/-- Are offers made that are passed on to nobody? -/
def Incident.isTake : Incident κ → Bool
  | .take _ => true
  | _ => false

namespace Rehearsal

/-- Offers are accounted for, and none is outstanding. -/
def Settled (r : Rehearsal κ) : Prop :=
  ∃ issued, Reception.Tidy ⟨⟨r.scheduler, []⟩, issued⟩

namespace Settled

variable {r : Rehearsal κ}

theorem pledges_eq_nil (h : r.Settled) : r.cluster.pledges = [] := by
  obtain ⟨issued, tidy⟩ := h
  exact tidy.pledges_eq_nil rfl

theorem withCluster (h : r.Settled) {c : Cluster}
    (agents : c.agents.map (·.id) = r.cluster.agents.map (·.id))
    (made : c.offersMade = r.cluster.offersMade) (pledges : c.pledges = r.cluster.pledges) :
    (r.withCluster c).Settled := by
  obtain ⟨issued, tidy⟩ := h
  exact ⟨issued, tidy.withCluster agents made pledges⟩

/-- If no offers are outstanding, no action can forget any. -/
theorem perform {s : Scheduler Cluster κ} {issued : List Issue}
    (h : Reception.Tidy ⟨⟨s, []⟩, issued⟩) (env : Surroundings) (action : Action κ) :
    Reception.Tidy ⟨⟨(s.perform env action).2, []⟩, issued⟩ := by
  have lapse := (s.speaks_perform env action).lapse
  have free : s.cluster.pledges = [] := h.pledges_eq_nil rfl
  have still : (s.perform env action).2.cluster.pledges = [] :=
    List.sublist_nil.1 (free ▸ lapse.pledges)
  exact .of_pledges_eq_nil ((congrArg (·.multiThreaded) (s.settings_perform env action)).trans
    h.single) (h.accounts.perform env action) still (List.forall_mem_nil _)

theorem run (h : r.Settled) (o : Operation (Listener κ)) : Settled (r.run o).1 := by
  obtain ⟨issued, tidy⟩ := h
  exact ⟨issued, Scheduler.run_preserves (P := fun s => Reception.Tidy ⟨⟨s, []⟩, issued⟩)
    (fun s action h => perform h r.surroundings action) o tidy⟩

/-- An event is dealt with as it would be step by step. -/
theorem receive (h : r.Settled) (event : ClusterEvent) : Settled (r.receive event) := by
  cases event with
  | registered id => exact h.run (.registered id)
  | idle agent =>
      obtain ⟨issued, tidy⟩ := h
      have taken := tidy.take rfl (.idle agent)
      have cluster : Reception.cluster ⟨⟨r.scheduler, []⟩, issued⟩ = r.cluster := rfl
      simp only [Reception.take, cluster] at taken
      simp only [Rehearsal.receive]
      split
      · next nothing =>
          rw [if_pos nothing] at taken
          exact ⟨_, taken⟩
      · next something =>
          rw [if_neg something] at taken
          let offering := r.withCluster (r.cluster.takeOffers agent).2
          let offers := (r.cluster.takeOffers agent).1
          have leads :=
            Work.leads_run offering.surroundings offering.scheduler (.offers offers)
          have passed : Settled (offering.run (.offers offers)).1 := ⟨_, taken.leads leads⟩
          exact takeTurns_preserves (fun _ generation h => h.run (.turn generation)) passed _
  | status status =>
      obtain ⟨pledges, agents, made⟩ := r.cluster.observe_spec status
      have passed := (h.withCluster agents made pledges).run (.status status)
      simp only [Rehearsal.receive]
      split
      · split
        · exact passed.withCluster rfl rfl rfl
        · exact passed
      · exact h.withCluster agents made pledges

theorem incur (h : r.Settled) {i : Incident κ} (other : i.isTake = false) :
    Settled (r.incur i) := by
  cases i with
  | ask o => exact h.run o
  | act action =>
      obtain ⟨issued, tidy⟩ := h
      exact ⟨issued, perform tidy r.surroundings action⟩
  | take agent => cases other
  | arrive event => exact h.receive event
  | land position =>
      exact land_preserves (h.withCluster rfl rfl rfl) (fun _ event h => h.receive event) h
  | wait millis => exact h.withCluster rfl rfl rfl

end Settled

/-- With a single thread, no offer is outstanding between the incidents of a rehearsal. -/
theorem pledges_after (count runtime : Nat) (info : FrameworkInfo) (attempts : Nat)
    (settings : SchedulerSettings) (single : settings.multiThreaded = false)
    (pipeline : PipelineSettings) (date : Instant) {incidents : List (Incident κ)}
    (others : ∀ i ∈ incidents, i.isTake = false) :
    ((new (.new count runtime) info attempts settings pipeline date).after
      incidents).cluster.pledges = [] := by
  have start : Settled (Rehearsal.new (κ := κ) (.new count runtime) info attempts settings pipeline
      date) := ⟨[], .new single (.new settings count runtime info attempts)
        (Cluster.pledges_new count runtime)⟩
  have settled : Settled (Rehearsal.after _ incidents) :=
    List.foldlRecOn incidents incur start fun _ settled i member => settled.incur (others i member)
  exact settled.pledges_eq_nil

end Rehearsal

end OfferDispatch
