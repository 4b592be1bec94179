import OfferDispatch.Proofs.Operations
import OfferDispatch.Proofs.Turns

/-!
# A stopped session

Requests are to wait while no session runs, and to be served once one does. Whoever places offers
would have to see to it, but only the processing loops do: they end with their session. Offers that
are placed by the operation that delivers them, as a scheduler with a single thread does, are placed
whether a session runs or not.

What is shown is when requests are kept: whenever the offers that are placed at once do not fit.
Which offers fit, and that one that does takes a request, is a matter of the batch as a whole, in
whatever order it is gone through.
-/

namespace OfferDispatch

variable {δ κ : Type}

/-! ## Offers that fit -/

namespace Scheduler

/-- Is the offer there, and is it enough for a request that waits? -/
def Fits (now : Instant) (s : Scheduler δ κ) (o : Offer Float) : Prop :=
  o.isAvailable now = true ∧
    ∃ r ∈ s.requests.waiting, o.satisfies s.settings.role r.spec = true

instance (now : Instant) (s : Scheduler δ κ) (o : Offer Float) : Decidable (s.Fits now o) :=
  inferInstanceAs (Decidable (_ ∧ _))

theorem Fits.of_eq {now : Instant} {s t : Scheduler δ κ} {o : Offer Float}
    (requests : t.requests = s.requests) (settings : t.settings = s.settings)
    (h : t.Fits now o) : s.Fits now o := by
  rw [Fits, requests, settings] at h
  exact h

variable [ClusterDriver δ]

/-- An offer that does not fit is left unused. -/
theorem quiet_offer {now : Instant} {p : Placement δ κ} {o : Offer Float}
    (h : ¬ p.scheduler.Fits now o) : Quiet p.scheduler (p.offer now o).scheduler := by
  simp only [Placement.offer]
  split
  · exact ⟨rfl, rfl, rfl, rfl, rfl⟩
  split
  · next available =>
      split
      · next r rest taken =>
          obtain ⟨before, after, split, -, fits⟩ := RequestQueue.exists_of_take? taken
          exact absurd ⟨available, r, by simp [split], fits⟩ h
      · exact .refl _
  · exact .refl _

theorem quiet_foldl_offer {now : Instant} {batch : List (Offer Float)} {p : Placement δ κ}
    (h : ∀ o ∈ batch, ¬ p.scheduler.Fits now o) :
    Quiet p.scheduler (batch.foldl (Placement.offer now) p).scheduler := by
  induction batch generalizing p with
  | nil => exact .refl _
  | cons o rest ih =>
      obtain ⟨first, others⟩ := List.forall_mem_cons.1 h
      have quiet := quiet_offer first
      refine quiet.trans (ih ?_)
      intro later member fits
      exact others later member (fits.of_eq quiet.requests (placed_offer now p o).settings_eq)

/-- An offer that fits takes a request out of the queue. -/
theorem pending_offer_lt {now : Instant} {p : Placement δ κ} {o : Offer Float}
    (h : p.scheduler.Fits now o) : (p.offer now o).scheduler.pending < p.scheduler.pending := by
  obtain ⟨available, r, waits, enough⟩ := h
  have nonempty : ¬ p.scheduler.requests.isEmpty = true := by
    intro empty
    rw [RequestQueue.isEmpty, List.isEmpty_iff] at empty
    rw [empty] at waits
    cases waits
  have found : (p.scheduler.requests.waiting.find? fun r =>
      o.satisfies p.scheduler.settings.role r.spec).isSome = true :=
    List.find?_isSome.2 ⟨r, waits, enough⟩
  simp only [Placement.offer, if_neg nonempty, if_pos available]
  split
  · next r rest taken =>
      obtain ⟨before, after, split, remaining, -⟩ := RequestQueue.exists_of_take? taken
      simp [pending, RequestQueue.size, split, remaining]
  · next none =>
      rw [RequestQueue.take?, Option.map_eq_none_iff] at none
      rw [none] at found
      cases found

theorem pending_offer_le (now : Instant) (p : Placement δ κ) (o : Offer Float) :
    (p.offer now o).scheduler.pending ≤ p.scheduler.pending := by
  by_cases fits : p.scheduler.Fits now o
  · exact Nat.le_of_lt (pending_offer_lt fits)
  · have same := (quiet_offer fits).requests
    exact Nat.le_of_eq (congrArg RequestQueue.size same)

theorem pending_foldl_offer_le (now : Instant) (batch : List (Offer Float))
    (p : Placement δ κ) :
    (batch.foldl (Placement.offer now) p).scheduler.pending ≤ p.scheduler.pending := by
  induction batch generalizing p with
  | nil => exact Nat.le_refl _
  | cons o rest ih => exact Nat.le_trans (ih _) (pending_offer_le now p o)

/-- A batch with an offer that fits takes a request out of the queue, if not for this offer then for
one before it. -/
theorem pending_foldl_offer_lt {now : Instant} {batch : List (Offer Float)} {p : Placement δ κ}
    {o : Offer Float} (member : o ∈ batch) (h : p.scheduler.Fits now o) :
    (batch.foldl (Placement.offer now) p).scheduler.pending < p.scheduler.pending := by
  induction batch generalizing p with
  | nil => cases member
  | cons first rest ih =>
      rw [List.foldl_cons]
      by_cases fits : p.scheduler.Fits now first
      · exact Nat.lt_of_le_of_lt (pending_foldl_offer_le now rest _) (pending_offer_lt fits)
      · have quiet := quiet_offer fits
        have later : o ∈ rest := by
          obtain rfl | later := List.mem_cons.1 member
          · exact absurd h fits
          · exact later
        have still : (p.offer now first).scheduler.Fits now o :=
          h.of_eq quiet.requests.symm (placed_offer now p first).settings_eq.symm
        have fewer := ih later still
        have same : (p.offer now first).scheduler.pending = p.scheduler.pending :=
          congrArg RequestQueue.size quiet.requests
        omega

/-- Placing a batch keeps all requests that wait and launches nothing exactly if no offer fits. -/
theorem place_keeps_iff (now : Instant) (s : Scheduler δ κ) (batch : List (Offer Float)) :
    (s.requests.waiting <+: (s.place now batch).scheduler.requests.waiting ∧
        (s.place now batch).scheduler.launches = s.launches) ↔
      ∀ o ∈ batch, ¬ s.Fits now o := by
  have perm := perm_arrangeByAffinity s.affinity batch
  constructor
  · rintro ⟨kept, -⟩ o member fits
    have fewer := pending_foldl_offer_lt (p := ⟨s, [], []⟩) (perm.mem_iff.2 member) fits
    have length := kept.length_le
    exact absurd fewer (Nat.not_lt.2 length)
  · intro none
    have quiet : Quiet s (s.place now batch).scheduler := by
      have placed := quiet_foldl_offer (p := ⟨s, [], []⟩)
        fun o member => none o (perm.mem_iff.1 member)
      exact placed.trans ⟨rfl, rfl, rfl, rfl, rfl⟩
    rw [quiet.requests]
    exact ⟨List.prefix_rfl, quiet.launches⟩

/-! ## Operations on a stopped session -/

omit [ClusterDriver δ] in
/-- The offers that an operation places itself instead of leaving them to a processing loop. -/
def placedAtOnce (s : Scheduler δ κ) : Operation κ → List (Offer Float)
  | .process batch => batch
  | .offers delivered =>
    if s.settings.multiThreaded then []
    else (delivered.foldl (fun b o => (b.enqueue o).2) s.buffer).offers
  | _ => []

/-- Does no offer fit that an operation places itself? -/
def LeavesOffers (now : Instant) (s : Scheduler δ κ) (o : Operation κ) : Prop :=
  ∀ offer ∈ s.placedAtOnce o, ¬ s.Fits now offer

instance (now : Instant) (s : Scheduler δ κ) (o : Operation κ) :
    Decidable (s.LeavesOffers now o) :=
  inferInstanceAs (Decidable (∀ _ ∈ _, _))

/-- All requests that wait in `s` still wait in `t`, in their order and before any others, and no
launch was tried in between. -/
def Keeps (s t : Scheduler δ κ) : Prop :=
  s.requests.waiting <+: t.requests.waiting ∧ t.launches = s.launches

/-- An operation that leads from `s` to `t` has tried no launch, and it has kept all requests that
wait unless it is there to cancel one. -/
def Spares (s : Scheduler δ κ) (o : Operation κ) (t : Scheduler δ κ) : Prop :=
  t.launches = s.launches ∧
    ((∀ worker, o ≠ .cancel worker) → s.requests.waiting <+: t.requests.waiting)

omit [ClusterDriver δ] in
theorem Keeps.spares {s t : Scheduler δ κ} (o : Operation κ) (h : s.Keeps t) : s.Spares o t :=
  ⟨h.2, fun _ => h.1⟩

omit [ClusterDriver δ] in
theorem Keeps.of_quiet {s t : Scheduler δ κ} (h : Quiet s t) : s.Keeps t := by
  rw [Keeps, h.requests]
  exact ⟨List.prefix_rfl, h.launches⟩

theorem keeps_run_request (env : Surroundings) (s : Scheduler δ κ) (spec : WorkerSpec Float)
    (callback : κ) : s.Keeps (s.run env (.request spec callback)).scheduler := by
  obtain ⟨-, ⟨e, -, quiet⟩ | ⟨r, -, -, -, quiet⟩⟩ := s.quiet_run_request env spec callback
  · exact .of_quiet quiet
  · rw [Keeps, quiet.requests]
    exact ⟨List.prefix_append _ _, quiet.launches⟩

theorem keeps_supervise (nodes : Nat) (s : Scheduler δ κ) :
    s.Keeps (OfferDispatch.supervise nodes s).2 := by
  rw [Keeps, requests_supervise]
  exact ⟨List.prefix_rfl, launches_supervise nodes s⟩

theorem keeps_wrapUp (env : Surroundings) (s : Scheduler δ κ) : s.Keeps (s.wrapUp env) := by
  rw [wrapUp]
  split
  · exact keeps_supervise env.nodes s
  · exact ⟨List.prefix_rfl, rfl⟩

theorem keeps_run_status (env : Surroundings) (s : Scheduler δ κ) (status : TaskStatus) :
    s.Keeps (s.run env (.status status)).scheduler := by
  rw [run_status]
  split
  · next effect _ => exact keeps_wrapUp env { s with tracker := effect.tracker }
  · split
    · exact ⟨List.prefix_rfl, rfl⟩
    · exact keeps_wrapUp env s

theorem launches_run_cancel (env : Surroundings) (s : Scheduler δ κ) (worker : TaskId) :
    (s.run env (.cancel worker)).scheduler.launches = s.launches := by
  rw [run_cancel]
  split
  · have called := quiet_call (s := s) (c := .kill worker) (fun _ => rfl) rfl
    have wrapped := keeps_wrapUp env { s with session := (s.session.call (.kill worker)).2 }
    exact wrapped.2.trans called.launches
  · split
    · next taken _ => exact (keeps_wrapUp env { s with requests := taken.2 }).2
    · exact (keeps_wrapUp env s).2

/-- Offers that are placed as they are delivered are placed together with those in the buffer. -/
theorem keeps_run_offers_iff (env : Surroundings) (s : Scheduler δ κ)
    (delivered : List (Offer Float)) (single : s.settings.multiThreaded = false) :
    s.Keeps (s.run env (.offers delivered)).scheduler ↔
      s.LeavesOffers env.now (.offers delivered) := by
  have placed := quiet_run_offers env s delivered single
  have buffered := s.quiet_acceptAll delivered
  obtain ⟨link, accepted⟩ := s.acceptAll_eq delivered
  have settings : (s.acceptAll delivered).settings = s.settings := by
    rw [accepted]
  have offers : s.placedAtOnce (.offers delivered) = (s.acceptAll delivered).buffer.offers := by
    rw [placedAtOnce, single, accepted]
    rfl
  have whole := place_keeps_iff env.now
    { s.acceptAll delivered with buffer := (s.acceptAll delivered).buffer.drain.2 }
    (s.acceptAll delivered).buffer.offers
  have fits (offer : Offer Float) : Fits env.now
      { s.acceptAll delivered with buffer := (s.acceptAll delivered).buffer.drain.2 } offer ↔
        s.Fits env.now offer :=
    ⟨.of_eq buffered.requests settings, .of_eq buffered.requests.symm settings.symm⟩
  simp only [fits] at whole
  rw [Keeps, placed.requests, placed.launches, LeavesOffers, offers, ← buffered.requests,
    ← buffered.launches]
  exact whole

/-- On a stopped session, an operation spares the requests that wait exactly if no offer fits that
it places itself. -/
theorem spares_run_iff (env : Surroundings) (s : Scheduler δ κ) (o : Operation κ)
    (stopped : s.session.running = false) :
    s.Spares o (s.run env o).scheduler ↔ s.LeavesOffers env.now o := by
  have spared (h : s.Spares o (s.run env o).scheduler) (none : s.placedAtOnce o = []) :
      s.Spares o (s.run env o).scheduler ↔ s.LeavesOffers env.now o := by
    rw [LeavesOffers, none]
    exact ⟨fun _ => nofun, fun _ => h⟩
  have kept (h : s.Keeps (s.run env o).scheduler) (none : s.placedAtOnce o = []) :=
    spared (h.spares o) none
  have exactly (other : ∀ worker, o ≠ .cancel worker)
      (h : s.Keeps (s.run env o).scheduler ↔ s.LeavesOffers env.now o) :
      s.Spares o (s.run env o).scheduler ↔ s.LeavesOffers env.now o := by
    rw [← h]
    exact ⟨fun spares => ⟨spares.2 other, spares.1⟩, Keeps.spares o⟩
  cases o with
  | cancel worker =>
      refine spared ⟨launches_run_cancel env s worker, ?_⟩ rfl
      intro other
      exact absurd rfl (other worker)
  | request spec callback => exact kept (keeps_run_request env s spec callback) rfl
  | status status => exact kept (keeps_run_status env s status) rfl
  | error | stop => exact kept ⟨List.prefix_rfl, launches_stop s⟩ rfl
  | supervise => exact kept (keeps_supervise env.nodes s) rfl
  | rescind | registered | remark => exact kept ⟨List.prefix_rfl, rfl⟩ rfl
  | turn generation =>
      have quiet := quiet_run_turn env s generation
      rw [if_neg (Bool.eq_false_iff.1 stopped)] at quiet
      exact kept (.of_quiet quiet) rfl
  | process batch =>
      refine exactly nofun ?_
      have quiet := quiet_run_process env s batch
      rw [Keeps, quiet.requests, quiet.launches]
      exact place_keeps_iff env.now s batch
  | offers delivered =>
      by_cases multi : s.settings.multiThreaded = true
      · exact kept (.of_quiet (quiet_run_offers_of_multiThreaded env s delivered multi))
          (if_pos multi)
      · exact exactly nofun (keeps_run_offers_iff env s delivered (Bool.eq_false_iff.2 multi))

/-! ## Until the session starts again -/

/-- While no offer fits that is placed at once, requests wait on until they are cancelled. -/
theorem spares_after {s : Scheduler δ κ} {demands : List (Demand κ)}
    (spared : ∀ part d, part ++ [d] <+: demands →
      (s.after part).scheduler.Spares d.operation (s.after (part ++ [d])).scheduler) :
    (s.after demands).scheduler.launches = s.launches ∧
      ((∀ d ∈ demands, ∀ worker, d.operation ≠ .cancel worker) →
        s.requests.waiting <+: (s.after demands).scheduler.requests.waiting) := by
  induction demands using List.reverseRecOn with
  | nil => exact ⟨rfl, fun _ => List.prefix_rfl⟩
  | append_singleton demands d ih =>
      have earlier := ih fun part d h => spared part d (h.trans (List.prefix_append _ _))
      have last := spared demands d List.prefix_rfl
      refine ⟨last.1.trans earlier.1, ?_⟩
      intro others
      obtain ⟨before, now⟩ := List.forall_mem_append.1 others
      exact (earlier.2 before).trans (last.2 (now d (List.mem_singleton_self d)))

/-- While the session is stopped, an operation spares the requests that wait exactly if no offer
fits that it places itself. If none ever does, then until the session starts again no launch is
tried, and all requests that waited wait on unless one is cancelled. -/
theorem stopped_session_spares_iff (s : Scheduler δ κ) (demands : List (Demand κ))
    (stopped : ∀ part d, part ++ [d] <+: demands →
      (s.after part).scheduler.session.running = false) :
    (∀ part d, part ++ [d] <+: demands →
      ((s.after part).scheduler.Spares d.operation (s.after (part ++ [d])).scheduler ↔
        (s.after part).scheduler.LeavesOffers d.env.now d.operation)) ∧
    ((∀ part d, part ++ [d] <+: demands →
        (s.after part).scheduler.LeavesOffers d.env.now d.operation) →
      (s.after demands).scheduler.launches = s.launches ∧
        ((∀ d ∈ demands, ∀ worker, d.operation ≠ .cancel worker) →
          s.requests.waiting <+: (s.after demands).scheduler.requests.waiting)) := by
  have each : ∀ part d, part ++ [d] <+: demands →
      ((s.after part).scheduler.Spares d.operation (s.after (part ++ [d])).scheduler ↔
        (s.after part).scheduler.LeavesOffers d.env.now d.operation) := by
    intro part d h
    rw [after_concat]
    exact spares_run_iff d.env _ d.operation (stopped part d h)
  refine ⟨each, ?_⟩
  intro left
  exact spares_after fun part d h => (each part d h).2 (left part d h)

end Scheduler

namespace Plain

/-- A request waits, and the session is stopped. -/
def stopped : Scheduler Recorder Unit :=
  (scheduler.after [⟨moment, .request (worker "w") ()⟩, ⟨moment, .stop⟩]).scheduler

def lateOffer : List (Demand Unit) := [⟨moment, .offers [offer "o"]⟩]

/-- The late offer takes the request that waits, though no session runs. -/
theorem stopped_session_spares_iff_late :
    (∀ part d, part ++ [d] <+: lateOffer →
        (stopped.after part).scheduler.session.running = false) ∧
      ¬ stopped.Spares (.offers [offer "o"]) (stopped.after lateOffer).scheduler ∧
      (stopped.after lateOffer).scheduler.launched = [⟨"w"⟩] := by
  have ended : ∀ part d, part ++ [d] <+: lateOffer →
      (stopped.after part).scheduler.session.running = false := by
    intro part d h
    have short : part.length + 1 ≤ 1 := by simpa [lateOffer] using h.length_le
    obtain rfl := List.eq_nil_of_length_eq_zero (Nat.le_zero.1 (Nat.le_of_succ_le_succ short))
    decide +kernel
  obtain ⟨each, -⟩ := stopped.stopped_session_spares_iff lateOffer ended
  have fits : ¬ stopped.LeavesOffers moment.now (.offers [offer "o"]) := by decide +kernel
  refine ⟨ended, ?_, by decide +kernel⟩
  intro spares
  exact fits ((each [] _ List.prefix_rfl).1 spares)

end Plain

end OfferDispatch
