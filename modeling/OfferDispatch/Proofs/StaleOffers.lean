import OfferDispatch.Proofs.Disposal
import OfferDispatch.Proofs.PlacementSafety
import OfferDispatch.Proofs.SessionRecords
import OfferDispatch.Proofs.StoppedSession

/-!
# Offers that outlive their session

With several threads, offers wait in the buffer until a processing loop takes them. The buffer
belongs to the scheduler and not to a session: stopping wakes up whoever waits for offers, but takes
none out of the buffer. So what is taken after a restart need not belong to the session that runs
then. It is placed all the same.

To tell such offers, each offer in the buffer is given a date: how often the session had been
stopped when the offer was delivered. The dates are kept beside the scheduler, which knows nothing
of them.
-/

namespace OfferDispatch

variable {δ κ : Type}

/-- An offer in the buffer, and how often the session had been stopped when it was delivered. -/
structure DatedOffer where
  offer : Offer Float
  generation : Nat

variable [ClusterDriver δ]

namespace Turn

/-- A launch is tried in the turn: the agent of the offer is up, a request is found that the offer
satisfies, and the request makes a task. -/
def Tries (now : Instant) (t : Turn δ κ) : Prop :=
  ∃ r rest task, t.attempt? now = some (r, rest) ∧ t.met.build t.offer r = .ok task

/-- A task that is made is launched. -/
theorem exchanges_of_build {now : Instant} {t : Turn δ κ} {r : Request κ} {rest : RequestQueue κ}
    {task : Task Float} (tried : t.attempt? now = some (r, rest))
    (built : t.met.build t.offer r = .ok task) :
    t.exchanges now = [.call (.launch t.offer.id task)
      (t.met.scheduler.session.link.call (.launch t.offer.id task)).1] := by
  have called := Link.log_call t.met.scheduler.session.link (.launch t.offer.id task)
  have log : (t.met.launch t.offer r rest).log = t.met.log ++
      [.call (.launch t.offer.id task)
        (t.met.scheduler.session.link.call (.launch t.offer.id task)).1] := by
    rw [Placement.build] at built
    simp only [Placement.launch, Launcher.submit, built]
    cases answered : t.met.scheduler.session.link.call (.launch t.offer.id task) with
    | mk answer link =>
        rw [answered] at called
        cases answer <;> exact called
  rw [exchanges, after_of_attempt tried, log, List.drop_left]

theorem exists_launch_iff {now : Instant} {t : Turn δ κ} {offer : OfferId} :
    (∃ task answer, .call (.launch offer task) answer ∈ t.exchanges now) ↔
      t.offer.id = offer ∧ t.Tries now := by
  constructor
  · rintro ⟨task, answer, called⟩
    obtain ⟨rfl, r, rest, tried, built⟩ := exists_attempt_of_launch called
    exact ⟨rfl, r, rest, task, tried, built⟩
  · rintro ⟨rfl, r, rest, task, tried, built⟩
    rw [exchanges_of_build tried built]
    exact ⟨task, _, List.mem_singleton_self _⟩

end Turn

/-! ## What is said in an operation -/

omit [ClusterDriver δ] in
theorem SaysNoLaunch.of_launches {k l : Link δ} (grows : k.log <+: l.log)
    (same : l.launches = k.launches) : SaysNoLaunch k.log l.log := by
  obtain ⟨said, log⟩ := grows
  refine ⟨said, log.symm, ?_⟩
  rw [Link.launches, ← log, List.filterMap_append, ← Link.launches] at same
  exact List.filterMap_eq_nil_iff.1 (List.append_right_eq_self.1 same)

namespace Scheduler

theorem log_prefix_perform (env : Surroundings) (s : Scheduler δ κ) (action : Action κ) :
    s.log <+: (s.perform env action).2.log := by
  by_cases none : s.batch action = []
  · obtain ⟨said, log, -⟩ := s.saysNoLaunch_perform env none
    exact ⟨said, log.symm⟩
  cases action with
  | place offers =>
      have some_ : ¬ offers.isEmpty = true := fun empty => none (List.isEmpty_iff.1 empty)
      rw [perform, if_neg some_]
      exact ⟨_, (s.log_place env.now offers).symm⟩
  | turn generation =>
      have some_ : ¬ s.buffer.drain.1.isEmpty = true := fun empty =>
        none (List.isEmpty_iff.1 empty)
      simp only [perform, turn, if_neg some_]
      split
      · exact ⟨_, (log_place env.now { s with buffer := s.buffer.drain.2 } _).symm⟩
      · exact List.prefix_rfl
  | _ => exact absurd rfl none

/-- What was said stays said. -/
theorem log_prefix_run (env : Surroundings) (s : Scheduler δ κ) (o : Operation κ) :
    s.log <+: (s.run env o).scheduler.log :=
  run_preserves (P := fun t => s.log <+: t.log)
    (fun t action before => before.trans (log_prefix_perform env t action)) o List.prefix_rfl

/-- With several threads, only processing loops place offers that pass through the buffer. Whatever
else is done tries no launch, and neither does a loop while no session runs. -/
theorem saysNoLaunch_run (env : Surroundings) {s : Scheduler δ κ} {o : Operation κ}
    (multi : s.settings.multiThreaded = true) (buffered : ∀ batch, o ≠ .process batch)
    (other : s.session.running = true → ∀ generation, o ≠ .turn generation) :
    SaysNoLaunch s.log (s.run env o).scheduler.log := by
  refine .of_launches (log_prefix_run env s o) ?_
  cases o with
  | process batch => exact absurd rfl (buffered batch)
  | turn generation =>
      have stopped : ¬ s.session.running = true := fun runs => other runs generation rfl
      have quiet := quiet_run_turn env s generation
      rw [if_neg stopped] at quiet
      exact quiet.launches
  | offers delivered => exact (quiet_run_offers_of_multiThreaded env s delivered multi).launches
  | request spec callback => exact (keeps_run_request env s spec callback).2
  | cancel worker => exact launches_run_cancel env s worker
  | status status => exact (keeps_run_status env s status).2
  | error | stop => exact launches_stop s
  | supervise => exact launches_supervise env.nodes s
  | rescind | registered | remark => rfl

/-- The turns of the offers that a processing loop takes. -/
def loopTurns (now : Instant) (s : Scheduler δ κ) : List (Turn δ κ) :=
  turns now { s with buffer := s.buffer.drain.2 } s.buffer.offers

/-- While the session runs, all launches that a processing loop tries are tried in the turns of the
offers that were in the buffer. -/
theorem log_run_turn (env : Surroundings) {s : Scheduler δ κ} (runs : s.session.running = true)
    (generation : Nat) :
    ∃ rest, (s.run env (.turn generation)).scheduler.log =
        s.log ++ ((s.loopTurns env.now).flatMap (·.exchanges env.now) ++ rest) ∧
      ∀ e ∈ rest, e.launch? = none := by
  have said : (s.turn env.now generation).2.log =
      s.log ++ (s.loopTurns env.now).flatMap (·.exchanges env.now) := by
    simp only [turn, if_pos runs]
    split
    · next empty =>
        have nothing : s.buffer.offers = [] := List.isEmpty_iff.1 empty
        simp [loopTurns, turns, nothing, Placement.turns]
    · exact log_place env.now { s with buffer := s.buffer.drain.2 } s.buffer.offers
  have silent : SaysNoLaunch (s.turn env.now generation).2.log
      (s.run env (.turn generation)).scheduler.log := by
    rw [scheduler_run_turn]
    refine List.foldlRecOn _ _ (motive := fun t : Scheduler δ κ =>
      SaysNoLaunch (s.turn env.now generation).2.log t.log) (.refl _) ?_
    intro t before action member
    have plain := isPlain_of_mem_turn env.now s generation action member
    refine before.trans (t.saysNoLaunch_perform env ?_)
    cases action <;> first | rfl | cases plain
  obtain ⟨rest, log, silent⟩ := silent
  exact ⟨rest, by rw [log, said, List.append_assoc], silent⟩

/-- What is said in an operation, and on which offers launches are tried: on those that a processing
loop takes while the session runs, in whose turns a request is found and makes a task. -/
theorem exists_launch_run_iff (env : Surroundings) {s : Scheduler δ κ} {o : Operation κ}
    (multi : s.settings.multiThreaded = true) (buffered : ∀ batch, o ≠ .process batch) :
    ∃ said, (s.run env o).scheduler.log = s.log ++ said ∧
      ∀ offer, (∃ task answer, .call (.launch offer task) answer ∈ said) ↔
        (∃ generation, o = .turn generation) ∧ s.session.running = true ∧
          ∃ t ∈ s.loopTurns env.now, t.offer.id = offer ∧ t.Tries env.now := by
  by_cases placing : (∃ generation, o = .turn generation) ∧ s.session.running = true
  · obtain ⟨⟨generation, rfl⟩, runs⟩ := placing
    obtain ⟨rest, log, silent⟩ := log_run_turn env runs generation
    refine ⟨_, log, ?_⟩
    intro offer
    rw [and_iff_right ⟨generation, rfl⟩, and_iff_right runs]
    constructor
    · rintro ⟨task, answer, called⟩
      obtain turned | later := List.mem_append.1 called
      · obtain ⟨t, member, called⟩ := List.mem_flatMap.1 turned
        exact ⟨t, member, Turn.exists_launch_iff.1 ⟨task, answer, called⟩⟩
      · cases silent _ later
    · rintro ⟨t, member, tries⟩
      obtain ⟨task, answer, called⟩ := Turn.exists_launch_iff.2 tries
      exact ⟨task, answer, List.mem_append_left _ (List.mem_flatMap.2 ⟨t, member, called⟩)⟩
  · obtain ⟨said, log, silent⟩ := saysNoLaunch_run env multi buffered
      fun runs generation goes_on => placing ⟨⟨generation, goes_on⟩, runs⟩
    refine ⟨said, log, ?_⟩
    intro offer
    refine iff_of_false ?_ ?_
    · rintro ⟨task, answer, called⟩
      cases silent _ called
    · rintro ⟨goes_on, runs, -⟩
      exact placing ⟨goes_on, runs⟩

/-! ## The buffer -/

/-- Apart from offers that are delivered or taken back, only processing loops change what is in the
buffer. -/
theorem buffer_run_of_agenda {env : Surroundings} {s : Scheduler δ κ} {o : Operation κ}
    (agenda : ∀ action ∈ o.agenda s.settings, action.movesOffers = false) :
    (s.run env o).scheduler.buffer = s.buffer := by
  have follows : ∀ (t : Scheduler δ κ) (action : Action κ), action.movesOffers = false →
      ∀ follow ∈ (t.perform env action).1, follow.movesOffers = false := by
    rintro t action - follow member
    have later := isInitial_of_mem_perform member
    cases follow <;> first | rfl | cases later
  exact run_preserves_of_allowed (P := fun t => t.buffer = s.buffer)
    (fun t action ok same => (buffer_perform env t ok).trans same) follows
    agenda rfl

/-- A processing loop takes all offers while the session runs, and none otherwise. -/
theorem offers_run_turn (env : Surroundings) (s : Scheduler δ κ) (generation : Nat) :
    (s.run env (.turn generation)).scheduler.buffer.offers =
      if s.session.running then [] else s.buffer.offers := by
  have taken : (s.turn env.now generation).2.buffer.offers =
      if s.session.running then [] else s.buffer.offers := by
    simp only [turn]
    split
    · split
      · next empty => exact List.isEmpty_iff.1 empty
      · exact congrArg OfferBuffer.offers
          (placed_place env.now { s with buffer := s.buffer.drain.2 } _).buffer_eq
    · rfl
  rw [scheduler_run_turn, ← taken]
  refine List.foldlRecOn _ _ (motive := fun t : Scheduler δ κ =>
    t.buffer.offers = (s.turn env.now generation).2.buffer.offers) rfl ?_
  intro t same action member
  have follows : action ∈ (s.perform env (.turn generation)).1 := member
  have later := isInitial_of_mem_perform follows
  rw [buffer_perform env t (by cases action <;> first | rfl | cases later)]
  exact same

/-- With several threads, offers that are delivered join those in the buffer as long as there is
room. -/
theorem offers_run_offers (env : Surroundings) (s : Scheduler δ κ) (delivered : List (Offer Float))
    (multi : s.settings.multiThreaded = true) :
    (s.run env (.offers delivered)).scheduler.buffer.offers =
      s.buffer.offers ++ s.buffer.admitted delivered := by
  have agenda : (Operation.offers delivered : Operation κ).agenda s.settings =
      .startLoop :: delivered.map .accept ++ [.answer .done] := by
    simp [Operation.agenda, multi]
  have started : s.ensureLoop.buffer = s.buffer := by
    rw [ensureLoop]
    split <;> rfl
  have accepted : (s.run env (.offers delivered)).scheduler =
      s.ensureLoop.acceptAll delivered := by
    rw [run, carryOut, agenda, List.foldl_append]
    exact scheduler_foldl_accept env 3 { scheduler := s.ensureLoop } delivered
  rw [accepted, (s.ensureLoop.acceptAll_spec delivered).1, started]

/-! ## Dates -/

/-- The offers in the buffer with their dates, after an operation. -/
def redate (s : Scheduler δ κ) (held : List DatedOffer) : Operation κ → List DatedOffer
  | .offers delivered => held ++ (s.buffer.admitted delivered).map (⟨·, s.generation⟩)
  | .rescind offer => held.eraseP fun h => OfferBuffer.isOffer offer h.offer
  | .turn _ => if s.session.running then [] else held
  | _ => held

/-- The offers in the buffer with their dates, after one demand after another. -/
def holdings (s : Scheduler δ κ) (demands : List (Demand κ)) : List DatedOffer :=
  (demands.foldl (fun (h : History δ κ × List DatedOffer) d =>
    (h.1.ask d, h.1.scheduler.redate h.2 d.operation)) ({ scheduler := s }, [])).2

@[simp] theorem holdings_concat (s : Scheduler δ κ) (demands : List (Demand κ)) (d : Demand κ) :
    s.holdings (demands ++ [d]) =
      (s.after demands).scheduler.redate (s.holdings demands) d.operation := by
  have beside (demands : List (Demand κ)) :
      (demands.foldl (fun (h : History δ κ × List DatedOffer) d =>
        (h.1.ask d, h.1.scheduler.redate h.2 d.operation)) ({ scheduler := s }, [])).1 =
        s.after demands := by
    induction demands using List.reverseRecOn with
    | nil => rfl
    | append_singleton demands d ih => rw [List.foldl_append, List.foldl_cons, ih]; simp
  rw [holdings, List.foldl_append, List.foldl_cons, List.foldl_nil, beside]
  rfl

/-- Dates are kept of the offers in the buffer. -/
theorem map_offer_redate (env : Surroundings) {s : Scheduler δ κ}
    (multi : s.settings.multiThreaded = true) {held : List DatedOffer}
    (h : held.map (·.offer) = s.buffer.offers) (o : Operation κ) :
    (s.redate held o).map (·.offer) = (s.run env o).scheduler.buffer.offers := by
  have kept (agenda : ∀ action ∈ o.agenda s.settings, action.movesOffers = false) :
      held.map (·.offer) = (s.run env o).scheduler.buffer.offers := by
    rw [buffer_run_of_agenda agenda]
    exact h
  cases o with
  | offers delivered =>
      rw [offers_run_offers env s delivered multi, redate, List.map_append, List.map_map, h]
      exact congrArg (s.buffer.offers ++ ·) (List.map_id _)
  | rescind offer =>
      have taken : (s.run env (.rescind offer)).scheduler.buffer.offers =
          s.buffer.offers.eraseP (OfferBuffer.isOffer offer) := OfferBuffer.offers_remove ..
      rw [taken, ← h, List.eraseP_map]
      rfl
  | turn generation =>
      rw [offers_run_turn, redate]
      split
      · rfl
      · exact h
  | _ => exact kept (by simp [Operation.agenda, Action.movesOffers, Action.isBuffering])

omit [ClusterDriver δ] in
/-- An offer is in the buffer since before the operation, or the operation has just delivered it. -/
theorem mem_redate {s : Scheduler δ κ} {held : List DatedOffer} {o : Operation κ} {h : DatedOffer}
    (member : h ∈ s.redate held o) :
    h ∈ held ∨ ∃ delivered, o = .offers delivered ∧ h.offer ∈ delivered ∧
      h.generation = s.generation := by
  cases o with
  | offers delivered =>
      obtain before | new := List.mem_append.1 member
      · exact .inl before
      · obtain ⟨offer, admitted, rfl⟩ := List.mem_map.1 new
        refine .inr ⟨delivered, rfl, ?_, rfl⟩
        rw [← s.buffer.admitted_append_excess delivered]
        exact List.mem_append_left _ admitted
  | rescind offer => exact .inl (List.mem_of_mem_eraseP member)
  | turn generation =>
      rw [redate] at member
      split at member
      · cases member
      · exact .inl member
  | _ => exact .inl member

end Scheduler

namespace History

/-- The offer was delivered in a demand, at the time of its date. -/
def DeliveredAt (s : Scheduler δ κ) (demands : List (Demand κ)) (h : DatedOffer) : Prop :=
  ∃ earlier d delivered, earlier ++ [d] <+: demands ∧ d.operation = .offers delivered ∧
    h.offer ∈ delivered ∧ (s.after earlier).scheduler.generation = h.generation

/-- The offer was in the buffer when the session was last stopped. -/
def LeftByStop (s : Scheduler δ κ) (demands : List (Demand κ)) (h : DatedOffer) : Prop :=
  ∃ earlier d, earlier ++ [d] <+: demands ∧
    (s.after earlier).scheduler.generation < (s.after (earlier ++ [d])).scheduler.generation ∧
    (s.after (earlier ++ [d])).scheduler.generation = (s.after demands).scheduler.generation ∧
    h ∈ s.holdings earlier

variable {s : Scheduler δ κ} {demands : List (Demand κ)} {h : DatedOffer}

theorem map_offer_holdings (multi : s.settings.multiThreaded = true)
    (empty : s.buffer.offers = []) (demands : List (Demand κ)) :
    (s.holdings demands).map (·.offer) = (s.after demands).scheduler.buffer.offers := by
  induction demands using List.reverseRecOn with
  | nil => exact empty.symm
  | append_singleton demands d ih =>
      rw [Scheduler.holdings_concat, Scheduler.after_concat]
      refine Scheduler.map_offer_redate d.env ?_ ih d.operation
      rw [Scheduler.settings_after]
      exact multi

theorem deliveredAt_of_mem_holdings (held : h ∈ s.holdings demands) : DeliveredAt s demands h := by
  induction demands using List.reverseRecOn with
  | nil => cases held
  | append_singleton demands d ih =>
      rw [Scheduler.holdings_concat] at held
      obtain before | ⟨delivered, made, among, now⟩ := Scheduler.mem_redate held
      · obtain ⟨earlier, first, delivered, part, rest⟩ := ih before
        exact ⟨earlier, first, delivered, part.trans (List.prefix_append _ _), rest⟩
      · exact ⟨demands, d, delivered, List.prefix_rfl, made, among, now.symm⟩

/-- No offer is dated later than it is. -/
theorem generation_le_of_mem_holdings (held : h ∈ s.holdings demands) :
    h.generation ≤ (s.after demands).scheduler.generation := by
  obtain ⟨earlier, d, -, ⟨later, rfl⟩, -, -, date⟩ := deliveredAt_of_mem_holdings held
  rw [← date, List.append_assoc]
  exact (Scheduler.Follows.after s earlier _).generation

/-- An offer in the buffer was delivered before the session was last stopped exactly if it was in
the buffer at that time. -/
theorem generation_lt_iff (multi : s.settings.multiThreaded = true)
    (held : h ∈ s.holdings demands) :
    h.generation < (s.after demands).scheduler.generation ↔ LeftByStop s demands h := by
  constructor
  · intro before
    induction demands using List.reverseRecOn with
    | nil => cases held
    | append_singleton demands d ih =>
        have same : (s.after demands).scheduler.settings.multiThreaded = true := by
          rw [Scheduler.settings_after]
          exact multi
        have follows := (Scheduler.Follows.after s demands [d]).generation
        rw [Scheduler.holdings_concat] at held
        obtain earlier | ⟨delivered, made, -, now⟩ := Scheduler.mem_redate held
        · obtain stopped | still := Nat.lt_or_eq_of_le follows
          · exact ⟨demands, d, List.prefix_rfl, stopped, rfl, earlier⟩
          · obtain ⟨first, last, part, stopped, recent, left⟩ := ih earlier (still.symm ▸ before)
            exact ⟨first, last, part.trans (List.prefix_append _ _), stopped, recent.trans still,
              left⟩
        · -- What has just been delivered cannot be from before a stop.
          have quiet := Scheduler.quiet_run_offers_of_multiThreaded d.env
            (s.after demands).scheduler delivered same
          rw [Scheduler.after_concat, ask, made, now] at before
          exact absurd before (Nat.not_lt.2 (Nat.le_of_eq quiet.generation))
  · rintro ⟨earlier, d, -, stopped, recent, left⟩
    rw [← recent]
    exact Nat.lt_of_le_of_lt (generation_le_of_mem_holdings left) stopped

/-- With several threads, launches are tried on offers in the buffer only, and it makes no
difference whether an offer in there was delivered before the session was last stopped, which is so
exactly if the stop has left it there. A launch on it is tried as soon as a processing loop goes on
while a session runs, if in the turn of the offer a request is found and makes a task. -/
theorem stale_launch_iff (settings : SchedulerSettings) (session : Session δ)
    (multi : settings.multiThreaded = true) (demands : List (Demand κ)) (last : Demand κ)
    (buffered : ∀ batch, last.operation ≠ .process batch) :
    let new := Scheduler.new settings session
    let s := (new.after demands).scheduler
    let held := new.holdings demands
    held.map (·.offer) = s.buffer.offers ∧
      (∀ h ∈ held, DeliveredAt new demands h ∧
        (h.generation < s.generation ↔ LeftByStop new demands h)) ∧
      ∃ said, (new.after (demands ++ [last])).scheduler.log = s.log ++ said ∧
        (∀ offer task answer, .call (.launch offer task) answer ∈ said →
          ∃ h ∈ held, h.offer.id = offer) ∧
        ∀ h ∈ held, (∃ task answer, .call (.launch h.offer.id task) answer ∈ said) ↔
          (∃ generation, last.operation = .turn generation) ∧ s.session.running = true ∧
            ∃ t ∈ s.loopTurns last.env.now, t.offer.id = h.offer.id ∧ t.Tries last.env.now := by
  intro new s held
  have same : s.settings.multiThreaded = true :=
    (congrArg SchedulerSettings.multiThreaded (Scheduler.settings_after new demands)).trans multi
  have offers : held.map (·.offer) = s.buffer.offers := map_offer_holdings multi rfl demands
  have dated : ∀ h ∈ held, DeliveredAt new demands h ∧
      (h.generation < s.generation ↔ LeftByStop new demands h) := fun h member =>
    ⟨deliveredAt_of_mem_holdings member, generation_lt_iff multi member⟩
  obtain ⟨said, log, launched⟩ := Scheduler.exists_launch_run_iff last.env same buffered
  rw [Scheduler.after_concat]
  refine ⟨offers, dated, said, log, ?_, fun h _ => launched h.offer.id⟩
  intro offer task answer called
  obtain ⟨-, -, t, member, rfl, -⟩ := (launched offer).1 ⟨task, answer, called⟩
  have taken : t.offer ∈ held.map (·.offer) := by
    rw [offers]
    exact (Scheduler.perm_map_offer_turns last.env.now _ _).mem_iff.1 (List.mem_map_of_mem member)
  obtain ⟨h, among, named⟩ := List.mem_map.1 taken
  exact ⟨h, among, congrArg Offer.id named⟩

end History

namespace Plain

/-- An offer is delivered, the session is stopped before a loop has taken it, and a request starts
another one. -/
def interrupted : List (Demand Unit) :=
  [⟨moment, .request (worker "w") ()⟩, ⟨moment, .offers [offer "o"]⟩, ⟨moment, .stop⟩,
    ⟨moment, .request (worker "v") ()⟩]

def threaded : Scheduler Recorder Unit := .new { multiThreaded := true } session

/-- In the new session a loop launches a task on the offer that the old one has left. -/
theorem stale_launch_iff_interrupted :
    ∃ h, History.LeftByStop threaded interrupted h ∧ ∃ task answer,
      .call (.launch h.offer.id task) answer ∈
        (threaded.after (interrupted ++ [⟨moment, .turn 1⟩])).scheduler.log := by
  obtain ⟨-, dated, said, log, among, -⟩ := History.stale_launch_iff
    { multiThreaded := true } session rfl interrupted ⟨moment, .turn 1⟩ nofun
  have none : (threaded.after interrupted).scheduler.launched = [] := by decide +kernel
  have launched : ⟨"w"⟩ ∈
      (threaded.after (interrupted ++ [⟨moment, .turn 1⟩])).scheduler.launched := by
    decide +kernel
  obtain ⟨offer, task, called, named⟩ := Scheduler.mem_launched_iff.1 launched
  rw [threaded, log] at called
  obtain earlier | called := List.mem_append.1 called
  · have before : task.id ∈ (threaded.after interrupted).scheduler.launched :=
      Scheduler.mem_launched_iff.2 ⟨offer, task, earlier, rfl⟩
    rw [none] at before
    cases before
  obtain ⟨h, held, rfl⟩ := among offer task _ called
  have old : ∀ h ∈ threaded.holdings interrupted, h.generation = 0 := by decide +kernel
  have stopped : (threaded.after interrupted).scheduler.generation = 1 := by decide +kernel
  refine ⟨h, (dated h held).2.1 ?_, task, .ok (), ?_⟩
  · have now : h.generation < (threaded.after interrupted).scheduler.generation := by
      rw [old h held, stopped]
      exact Nat.zero_lt_one
    exact now
  · rw [threaded, log]
    exact List.mem_append_right _ called

end Plain

end OfferDispatch
