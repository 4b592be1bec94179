import Mathlib.Data.List.Forall2
import OfferDispatch.Proofs.BufferHistory
import OfferDispatch.Proofs.Turns

/-!
# Every offer is disposed of once

An offer locks what it offers until it is used or declined, and one that is used twice is overdrawn.
With a single thread, offers are placed by the operation that delivers them, so that none is left in
the buffer between operations. An offer that finds no room in the buffer is declined at once; every
other one has its turn, in which a task is launched on it or it is put on the list of those to
decline.

What is said about offers in such an operation is thus said in three parts: those are declined that
there is no room for, launches are tried, and those are declined that were left over. Altogether
each offer is disposed of exactly once.
-/

namespace OfferDispatch

variable {δ κ : Type}

/-! ## What is said of offers -/

/-- Is an offer disposed of in the exchange? It is if a task is launched on it or it is declined. -/
def Exchange.disposes (id : OfferId) : Exchange → Bool
  | .call (.launch offer _) (.ok _) | .call (.decline offer _) _ => offer == id
  | _ => false

/-- What is said is that offers are declined, one after another, however it is answered. -/
def SaysDeclines : List (OfferId × Duration) → List Exchange → Prop :=
  List.Forall₂ fun d e => ∃ answer, e = .call (.decline d.1 d.2) answer

theorem SaysDeclines.countP_disposes {declines : List (OfferId × Duration)} {said : List Exchange}
    (h : SaysDeclines declines said) (id : OfferId) :
    said.countP (Exchange.disposes id) = declines.countP (·.1 == id) := by
  induction h with
  | nil => rfl
  | cons first _ ih =>
      obtain ⟨answer, rfl⟩ := first
      rw [List.countP_cons, List.countP_cons, ih]
      rfl

namespace OfferBuffer

def admitted (b : OfferBuffer Float) (delivered : List (Offer Float)) : List (Offer Float) :=
  if b.capacity = 0 then delivered else delivered.take (b.capacity - b.offers.length)

def excess (b : OfferBuffer Float) (delivered : List (Offer Float)) : List (Offer Float) :=
  if b.capacity = 0 then [] else delivered.drop (b.capacity - b.offers.length)

variable {b : OfferBuffer Float}

theorem admitted_append_excess (b : OfferBuffer Float) (delivered : List (Offer Float)) :
    b.admitted delivered ++ b.excess delivered = delivered := by
  rw [admitted, excess]
  split
  · exact List.append_nil _
  · exact List.take_append_drop _ _

/-- A full buffer has room for nothing. -/
theorem split_of_isFull (full : b.isFull = true) (delivered : List (Offer Float)) :
    b.admitted delivered = [] ∧ b.excess delivered = delivered := by
  obtain ⟨bounded, reached⟩ := isFull_iff.1 full
  have none : b.capacity - b.offers.length = 0 := Nat.sub_eq_zero_of_le reached
  rw [admitted, excess, if_neg bounded, if_neg bounded, none]
  exact ⟨rfl, rfl⟩

/-- An offer that is accepted takes up room. -/
theorem split_of_not_isFull (room : ¬ b.isFull = true) (o : Offer Float)
    (rest : List (Offer Float)) :
    b.admitted (o :: rest) = o :: (b.enqueue o).2.admitted rest ∧
      b.excess (o :: rest) = (b.enqueue o).2.excess rest := by
  have accepted : b.enqueue o =
      (true, { b with offers := b.offers ++ [o], added := b.added + 1 }) := if_neg room
  by_cases bounded : b.capacity = 0
  · simp only [admitted, excess, accepted, if_pos bounded, and_self]
  · rw [isFull_iff] at room
    have less : b.capacity - b.offers.length = b.capacity - (b.offers.length + 1) + 1 := by
      omega
    simp only [admitted, excess, accepted, if_neg bounded, List.length_append,
      List.length_singleton, less, List.take_succ_cons, List.drop_succ_cons, and_self]

end OfferBuffer

variable [ClusterDriver δ]

namespace Scheduler

/-- Declining offers says just that. -/
theorem log_declineAll (s : Scheduler δ κ) (declines : List (OfferId × Duration)) :
    ∃ said, (s.declineAll declines).log = s.log ++ said ∧ SaysDeclines declines said := by
  induction declines generalizing s with
  | nil => exact ⟨[], (List.append_nil _).symm, .nil⟩
  | cons d rest ih =>
      let called := s.session.call (.decline d.1 d.2)
      obtain ⟨said, log, declined⟩ := ih { s with session := called.2 }
      refine ⟨.call (.decline d.1 d.2) called.1 :: said, ?_, .cons ⟨_, rfl⟩ declined⟩
      rw [declineAll, List.foldl_cons, ← declineAll, log]
      exact List.append_assoc s.log [.call (.decline d.1 d.2) called.1] said

theorem accept_of_isFull {s : Scheduler δ κ} (full : s.buffer.isFull = true) (o : Offer Float) :
    s.accept o = { s with
      buffer := { s.buffer with dropped := s.buffer.dropped + 1 }
      session := (s.session.call (.decline o.id shortDecline)).2 } := by
  simp only [accept, OfferBuffer.enqueue, if_pos full]
  rfl

theorem accept_of_not_isFull {s : Scheduler δ κ} (room : ¬ s.buffer.isFull = true)
    (o : Offer Float) : s.accept o = { s with buffer := (s.buffer.enqueue o).2 } := by
  simp only [accept, OfferBuffer.enqueue, if_neg room]
  rfl

/-- Offers are buffered as long as there is room, and those after them are declined shortly. -/
theorem acceptAll_spec (s : Scheduler δ κ) (delivered : List (Offer Float)) :
    (s.acceptAll delivered).buffer.offers =
        s.buffer.offers ++ s.buffer.admitted delivered ∧
      ∃ said, (s.acceptAll delivered).log = s.log ++ said ∧
        SaysDeclines ((s.buffer.excess delivered).map fun o => (o.id, shortDecline)) said := by
  induction delivered generalizing s with
  | nil =>
      have nothing := List.append_eq_nil_iff.1 (s.buffer.admitted_append_excess [])
      rw [nothing.1, nothing.2]
      exact ⟨(List.append_nil _).symm, [], (List.append_nil _).symm, .nil⟩
  | cons o rest ih =>
      obtain ⟨offers, said, log, declined⟩ := ih (s.accept o)
      rw [acceptAll, List.foldl_cons, ← acceptAll, offers, log]
      by_cases full : s.buffer.isFull = true
      · let answered := s.session.call (.decline o.id shortDecline)
        have still : (s.accept o).buffer.isFull = true := by
          rw [accept_of_isFull full]
          exact full
        obtain ⟨none, all⟩ := OfferBuffer.split_of_isFull full (o :: rest)
        obtain ⟨later, others⟩ := OfferBuffer.split_of_isFull still rest
        rw [others] at declined
        rw [none, all, later, accept_of_isFull full]
        refine ⟨rfl, .call (.decline o.id shortDecline) answered.1 :: said, ?_, ?_⟩
        · exact List.append_assoc s.log [.call (.decline o.id shortDecline) answered.1] said
        · exact .cons ⟨_, rfl⟩ declined
      · have joined : (s.buffer.enqueue o).2.offers = s.buffer.offers ++ [o] := by
          rw [OfferBuffer.enqueue, if_neg full]
        obtain ⟨room, excess⟩ := OfferBuffer.split_of_not_isFull full o rest
        rw [accept_of_not_isFull full] at declined ⊢
        rw [room, excess]
        refine ⟨?_, said, rfl, declined⟩
        rw [joined, List.append_assoc, List.singleton_append]

end Scheduler

/-! ## Turns -/

/-- How an offer is disposed of in its turn, where `long` is how long it is declined for if nobody
waits. -/
inductive Turn.Disposed (now : Instant) (long : Duration) (t : Turn δ κ) : Prop
  /-- A task is launched on it. -/
  | used {task : Task Float} (somebody : t.waiting ≠ [])
      (said : t.exchanges now = [.call (.launch t.offer.id task) (.ok ())])
      (declines : t.declines now = [])
  /-- A launch is tried on it and fails. -/
  | failed {task : Task Float} {e : DriverError} (somebody : t.waiting ≠ [])
      (said : t.exchanges now = [.call (.launch t.offer.id task) (.error e)])
      (declines : t.declines now = [(t.offer.id, shortDecline)])
  /-- It is left over, though somebody waits. -/
  | unused (somebody : t.waiting ≠ []) (said : t.exchanges now = [])
      (declines : t.declines now = [(t.offer.id, shortDecline)])
  /-- Nobody waits. -/
  | idle (nobody : t.waiting = []) (said : t.exchanges now = [])
      (declines : t.declines now = [(t.offer.id, long)])

namespace Turn

theorem disposed (now : Instant) (t : Turn δ κ) :
    t.Disposed now t.met.scheduler.settings.declineFor := by
  obtain ⟨declined, r, rest, task, tried, -, log⟩ |
    ⟨declined, log | ⟨r, rest, task, e, tried, -, log⟩⟩ := t.after_cases now
  · have said : t.exchanges now = [.call (.launch t.offer.id task) (.ok ())] := by
      rw [exchanges, log, List.drop_left]
    refine .used (waiting_ne_nil_of_attempt tried) said ?_
    rw [declines, declined, List.drop_length]
  · have silent : t.exchanges now = [] := by
      rw [exchanges, log, List.drop_length]
    have left : t.declines now = [(t.offer.id, t.refusal)] := by
      rw [declines, declined, List.drop_left]
    by_cases nobody : t.waiting = []
    · rw [refusal, if_pos nobody] at left
      exact .idle nobody silent left
    · rw [refusal, if_neg nobody] at left
      exact .unused nobody silent left
  · have somebody := waiting_ne_nil_of_attempt tried
    have said : t.exchanges now = [.call (.launch t.offer.id task) (.error e)] := by
      rw [exchanges, log, List.drop_left]
    refine .failed somebody said ?_
    rw [declines, declined, List.drop_left, refusal, if_neg somebody]

/-- The offer of the turn is disposed of once, in the turn or by being declined because of it. -/
theorem countP_disposes (now : Instant) (t : Turn δ κ) (id : OfferId) :
    (t.exchanges now).countP (Exchange.disposes id) + (t.declines now).countP (·.1 == id) =
      if t.offer.id == id then 1 else 0 := by
  cases t.disposed now with
  | used _ said declines | failed _ said declines | unused _ said declines
  | idle _ said declines =>
      rw [said, declines]
      simp [Exchange.disposes, List.countP_cons]

theorem countP_disposes_flatMap (now : Instant) (turns : List (Turn δ κ)) (id : OfferId) :
    (turns.flatMap (·.exchanges now)).countP (Exchange.disposes id) +
        (turns.flatMap (·.declines now)).countP (·.1 == id) =
      turns.countP (·.offer.id == id) := by
  induction turns with
  | nil => rfl
  | cons t rest ih =>
      have first := t.countP_disposes now id
      rw [List.flatMap_cons, List.flatMap_cons, List.countP_append, List.countP_append,
        List.countP_cons]
      omega

/-- If some offers are declined, others have their turns, and those are declined that their turns
have left over, then every offer is disposed of as often as it is there. -/
theorem countP_disposes_said {now : Instant} {turns : List (Turn δ κ)}
    {admitted excess : List (Offer Float)} {refuse : Duration} {first last : List Exchange}
    (each : (turns.map (·.offer)).Perm admitted)
    (shed : SaysDeclines (excess.map fun o => (o.id, refuse)) first)
    (left : SaysDeclines (turns.flatMap (·.declines now)) last) (id : OfferId) :
    (first ++ turns.flatMap (·.exchanges now) ++ last).countP (Exchange.disposes id) =
      (admitted ++ excess).countP (·.id == id) := by
  have met : turns.countP (·.offer.id == id) = admitted.countP (·.id == id) := by
    rw [← each.countP_eq, List.countP_map]
    rfl
  have early : first.countP (Exchange.disposes id) = excess.countP (·.id == id) := by
    rw [shed.countP_disposes, List.countP_map]
    rfl
  have turned := countP_disposes_flatMap now turns id
  have late := left.countP_disposes id
  rw [List.countP_append, List.countP_append, List.countP_append]
  omega

end Turn

/-! ## The buffer between operations -/

namespace Scheduler

structure BuffersNothing (capacity : Nat) (s : Scheduler δ κ) : Prop where
  capacity_eq : s.buffer.capacity = capacity
  offers : s.buffer.offers = []

omit [ClusterDriver δ] in
theorem BuffersNothing.of_eq {capacity : Nat} {s t : Scheduler δ κ}
    (h : s.BuffersNothing capacity) (same : t.buffer = s.buffer) : t.BuffersNothing capacity := by
  cases h
  constructor <;> rwa [same]

/-- Only an action that accepts an offer puts one into the buffer. -/
theorem BuffersNothing.perform {capacity : Nat} {s : Scheduler δ κ} (h : s.BuffersNothing capacity)
    (env : Surroundings) {action : Action κ} (other : ∀ o, action ≠ .accept o) :
    (s.perform env action).2.BuffersNothing capacity := by
  cases action with
  | accept o => exact absurd rfl (other o)
  | drain => exact ⟨h.capacity_eq, rfl⟩
  | rescind o =>
      have none : (s.buffer.offers.any (OfferBuffer.isOffer o)) = false := by
        rw [h.offers]
        rfl
      simp only [Scheduler.perform, OfferBuffer.remove, none]
      exact h
  | turn generation =>
      have empty : s.buffer.drain.1.isEmpty = true := List.isEmpty_iff.2 h.offers
      simp only [Scheduler.perform, turn, if_pos empty]
      split
      · exact h
      · exact h.of_eq rfl
  | _ => exact h.of_eq (buffer_perform env s rfl)

@[simp] theorem buffer_declineAll (s : Scheduler δ κ) (declines : List (OfferId × Duration)) :
    (s.declineAll declines).buffer = s.buffer := by
  induction declines generalizing s with
  | nil => rfl
  | cons d rest ih => rw [declineAll, List.foldl_cons, ← declineAll, ih]

theorem capacity_acceptAll (s : Scheduler δ κ) (delivered : List (Offer Float)) :
    (s.acceptAll delivered).buffer.capacity = s.buffer.capacity := by
  induction delivered generalizing s with
  | nil => rfl
  | cons o rest ih =>
      rw [acceptAll, List.foldl_cons, ← acceptAll, ih]
      by_cases full : s.buffer.isFull = true
      · rw [accept_of_isFull full]
      · rw [accept_of_not_isFull full, OfferBuffer.enqueue, if_neg full]

theorem BuffersNothing.run_offers {capacity : Nat} {s : Scheduler δ κ}
    (h : s.BuffersNothing capacity) (env : Surroundings) (delivered : List (Offer Float))
    (single : s.settings.multiThreaded = false) :
    (s.run env (.offers delivered)).scheduler.BuffersNothing capacity := by
  have received : (s.received delivered).BuffersNothing capacity :=
    ⟨(capacity_acceptAll s delivered).trans h.capacity_eq, rfl⟩
  rw [scheduler_run_offers env s delivered single]
  simp only
  split
  · exact received
  · refine received.of_eq ?_
    rw [buffer_declineAll, (placed_place env.now _ _).buffer_eq]

/-- With a single thread, nothing is left in the buffer by any operation. -/
theorem BuffersNothing.run {capacity : Nat} {s : Scheduler δ κ} (h : s.BuffersNothing capacity)
    (env : Surroundings) (o : Operation κ) (single : s.settings.multiThreaded = false) :
    (s.run env o).scheduler.BuffersNothing capacity := by
  have other (agenda : ∀ action ∈ o.agenda s.settings, ∀ o, action ≠ .accept o) :
      (s.run env o).scheduler.BuffersNothing capacity := by
    have follows : ∀ (t : Scheduler δ κ) (action : Action κ), (∀ o, action ≠ .accept o) →
        ∀ next ∈ (t.perform env action).1, ∀ o, next ≠ .accept o := by
      rintro t action - next member o rfl
      cases isInitial_of_mem_perform member
    exact run_preserves_of_allowed (P := BuffersNothing capacity)
      (fun t action ok before => before.perform env ok) follows agenda h
  cases o with
  | offers delivered => exact h.run_offers env delivered single
  | _ => exact other (by simp [Operation.agenda])

theorem buffersNothing_after (settings : SchedulerSettings) (session : Session δ)
    (single : settings.multiThreaded = false) (demands : List (Demand κ)) :
    ((new settings session).after demands).scheduler.BuffersNothing settings.capacity := by
  induction demands using List.reverseRecOn with
  | nil => exact ⟨rfl, rfl⟩
  | append_singleton demands d ih =>
      rw [after_concat]
      refine ih.run d.env d.operation ?_
      rw [settings_after]
      exact single

/-! ## Whole operations -/

/-- What is said when offers arrive while the buffer is empty: those are declined that there is no
room for, the others have their turns, and those that were left over are declined. -/
theorem log_run_offers (env : Surroundings) {s : Scheduler δ κ} (delivered : List (Offer Float))
    (single : s.settings.multiThreaded = false) (empty : s.buffer.offers = []) :
    let turns := (s.received delivered).turns env.now (s.buffer.admitted delivered)
    ∃ first last, (s.run env (.offers delivered)).scheduler.log =
        s.log ++ (first ++ turns.flatMap (·.exchanges env.now) ++ last) ∧
      SaysDeclines ((s.buffer.excess delivered).map fun o => (o.id, shortDecline)) first ∧
      SaysDeclines (turns.flatMap (·.declines env.now)) last := by
  intro turns
  obtain ⟨offers, first, log, declined⟩ := s.acceptAll_spec delivered
  rw [empty, List.nil_append] at offers
  have received : (s.received delivered).log = s.log ++ first := log
  rw [scheduler_run_offers env s delivered single, offers]
  simp only
  split
  · next none =>
      have nothing : turns = [] := by
        simp [turns, none, Scheduler.turns, Placement.turns]
      rw [nothing]
      refine ⟨first, [], ?_, declined, .nil⟩
      simpa using received
  · obtain ⟨last, whole, left⟩ := log_declineAll
      ((s.received delivered).place env.now (s.buffer.admitted delivered)).scheduler
      ((s.received delivered).place env.now (s.buffer.admitted delivered)).declines
    have placed := (s.received delivered).log_place env.now (s.buffer.admitted delivered)
    rw [declines_place] at left
    refine ⟨first, last, ?_, declined, left⟩
    rw [whole]
    rw [Placement.log] at placed
    rw [placed, received]
    simp only [List.append_assoc]
    rfl

end Scheduler

namespace History

/-- With a single thread, the buffer is empty between operations, and all offers that are delivered
are disposed of at once. Those past the capacity of the buffer are declined shortly. Each of the
others has a turn in which a task is launched on it, or after which it is declined: for long if
nobody waited, and shortly otherwise, also when a launch on it has failed. Nothing else is said, so
that each offer is disposed of as often as it is delivered. -/
theorem offers_disposed_once (settings : SchedulerSettings) (session : Session δ)
    (single : settings.multiThreaded = false) (demands : List (Demand κ)) :
    let s := ((Scheduler.new settings session).after demands).scheduler
    s.buffer.offers = [] ∧ ∀ (env : Surroundings) (delivered : List (Offer Float)),
      let admitted :=
        if settings.capacity = 0 then delivered else delivered.take settings.capacity
      let excess := if settings.capacity = 0 then [] else delivered.drop settings.capacity
      let turns := (s.received delivered).turns env.now admitted
      (turns.map (·.offer)).Perm admitted ∧
      (∀ t ∈ turns, t.Disposed env.now settings.declineFor) ∧
      ∃ first last, (s.run env (.offers delivered)).scheduler.log =
          s.log ++ (first ++ turns.flatMap (·.exchanges env.now) ++ last) ∧
        SaysDeclines (excess.map fun o => (o.id, shortDecline)) first ∧
        SaysDeclines (turns.flatMap (·.declines env.now)) last ∧
        ∀ id, (first ++ turns.flatMap (·.exchanges env.now) ++ last).countP
          (Exchange.disposes id) = delivered.countP (·.id == id) := by
  intro s
  have same : s.settings = settings := Scheduler.settings_after _ demands
  obtain ⟨capacity, empty⟩ := Scheduler.buffersNothing_after settings session single demands
  refine ⟨empty, ?_⟩
  intro env delivered admitted excess turns
  have room : s.buffer.admitted delivered = admitted := by
    rw [OfferBuffer.admitted, capacity, empty]
    rfl
  have beyond : s.buffer.excess delivered = excess := by
    rw [OfferBuffer.excess, capacity, empty]
    rfl
  have parts : admitted ++ excess = delivered := by
    rw [← room, ← beyond]
    exact s.buffer.admitted_append_excess delivered
  have perm : (turns.map (·.offer)).Perm admitted := Scheduler.perm_map_offer_turns ..
  refine ⟨perm, ?_, ?_⟩
  · intro t member
    have received : (s.received delivered).settings = settings := by
      obtain ⟨link, accepted⟩ := s.acceptAll_eq delivered
      rw [Scheduler.received, accepted]
      exact same
    rw [← received, ← Scheduler.settings_of_mem_turns member]
    exact t.disposed env.now
  · obtain ⟨first, last, log, declined, left⟩ :=
      Scheduler.log_run_offers env delivered (same.symm ▸ single) empty
    rw [room] at log left
    rw [beyond] at declined
    refine ⟨first, last, log, declined, left, ?_⟩
    intro id
    have whole := Turn.countP_disposes_said perm declined left id
    rw [parts] at whole
    exact whole

end History

namespace Plain

/-- There is room for a single offer, and a worker waits. -/
def narrow : Scheduler Recorder Unit :=
  ((Scheduler.new { capacity := 1 } session).after
    [⟨moment, .request (worker "w") ()⟩]).scheduler

/-- One offer is used and the other is declined. -/
theorem offers_disposed_once_narrow :
    narrow.buffer.offers = [] ∧
      (narrow.run moment (.offers [offer "o", offer "p"])).scheduler.launched = [⟨"w"⟩] ∧
      ∃ said, (narrow.run moment (.offers [offer "o", offer "p"])).scheduler.log =
          narrow.log ++ said ∧
        said.countP (Exchange.disposes ⟨"o"⟩) = 1 ∧ said.countP (Exchange.disposes ⟨"p"⟩) = 1 := by
  obtain ⟨empty, each⟩ := History.offers_disposed_once (κ := Unit) { capacity := 1 } session rfl
    [⟨moment, .request (worker "w") ()⟩]
  obtain ⟨-, -, first, last, log, -, -, once⟩ := each moment [offer "o", offer "p"]
  refine ⟨empty, by decide +kernel, _, log, ?_, ?_⟩
  · rw [once]
    decide
  · rw [once]
    decide

end Plain

end OfferDispatch
