import OfferDispatch.Proofs.Bookkeeping

/-!
# The turns of offers

A batch is gone through once, and each of its offers has its turn: it meets what has been placed so
far, and either a request is taken from the queue and its launch is tried, or the offer is left
unused. Whatever only grows while a batch is placed, such as the calls that are made and the offers
that are to be declined, is at the end what the turns have added, one after another; and whatever
relation the turns keep holds between any two points of the batch.

So what is to be shown of a batch is shown of one turn.
-/

namespace OfferDispatch

variable {δ κ : Type}

/-! ## The order of offers -/

theorem perm_bringForward (agent : AgentId) (offers : List (Offer Float)) :
    (bringForward agent offers).Perm offers := by
  rw [bringForward]
  split
  · next o found =>
      obtain ⟨same, before, after, split, others⟩ := List.find?_eq_some_iff_append.1 found
      have absent : ∀ x ∈ before, ¬ (x.agent == agent) = true := by
        intro x member
        simpa using others x member
      rw [split, List.eraseP_append_right _ absent,
        List.eraseP_cons_of_pos (p := fun x : Offer Float => x.agent == agent) same]
      exact List.perm_middle.symm
  · exact .refl _

/-- Offers of remembered agents go first, but no offer comes or goes. -/
theorem perm_arrangeByAffinity (affinity : List AgentId) (offers : List (Offer Float)) :
    (arrangeByAffinity affinity offers).Perm offers := by
  induction affinity with
  | nil => exact .refl _
  | cons agent rest ih => exact (perm_bringForward agent _).trans ih

/-! ## Logs -/

/-- What happened on the link until a batch had been placed so far, the oldest first. -/
def Placement.log (p : Placement δ κ) : List Exchange := p.scheduler.log

/-- The requests that wait, the earliest first. -/
def Placement.waiting (p : Placement δ κ) : List (Request κ) := p.scheduler.requests.waiting

/-! ## Launching -/

namespace Scheduler

variable [ClusterDriver δ]

/-- The request that is launched has left the queue, whatever comes of it. -/
@[simp] theorem requests_launch (p : Placement δ κ) (o : Offer Float) (r : Request κ)
    (rest : RequestQueue κ) : (p.launch o r rest).scheduler.requests = rest := by
  simp only [Placement.launch]
  split <;> rfl

end Scheduler

namespace Placement

/-- The task that a request makes on an offer, if it makes one. -/
def build (p : Placement δ κ) (o : Offer Float) (r : Request κ) : Except SpecFault (Task Float) :=
  p.scheduler.launcher.build o r.spec (o.allocation p.scheduler.settings.role r.spec)

variable [ClusterDriver δ]

/-- A launch succeeds and uses up the offer, or the offer is declined, be it that the cluster has
refused the task or that there was none to submit. -/
theorem launch_cases (p : Placement δ κ) (o : Offer Float) (r : Request κ)
    (rest : RequestQueue κ) :
    (∃ task, p.build o r = .ok task ∧
      (p.launch o r rest).log = p.log ++ [.call (.launch o.id task) (.ok ())] ∧
      (p.launch o r rest).declines = p.declines) ∨
    (p.launch o r rest).declines = p.declines ++ [(o.id, shortDecline)] ∧
      ((p.launch o r rest).log = p.log ∨
        ∃ task e, p.build o r = .ok task ∧
          (p.launch o r rest).log = p.log ++ [.call (.launch o.id task) (.error e)]) := by
  cases built : p.build o r with
  | error fault =>
      right
      rw [build] at built
      simp only [launch, Launcher.submit, built]
      exact ⟨rfl, .inl rfl⟩
  | ok task =>
      have called := Link.log_call p.scheduler.session.link (.launch o.id task)
      rw [build] at built
      cases answered : p.scheduler.session.link.call (.launch o.id task) with
      | mk answer link =>
          rw [answered] at called
          cases answer with
          | ok =>
              left
              simp only [launch, Launcher.submit, built, answered]
              exact ⟨task, rfl, called, trivial⟩
          | error e =>
              right
              simp only [launch, Launcher.submit, built, answered]
              exact ⟨rfl, .inr ⟨task, e, rfl, called⟩⟩

end Placement

/-! ## A turn -/

/-- The turn of an offer, and how far the batch had been placed when it came. -/
structure Turn (δ κ : Type) where
  met : Placement δ κ
  offer : Offer Float

namespace Turn

def waiting (t : Turn δ κ) : List (Request κ) := t.met.waiting

/-- The request whose launch is tried on the offer, and the queue without it. -/
def attempt? (now : Instant) (t : Turn δ κ) : Option (Request κ × RequestQueue κ) :=
  if t.offer.isAvailable now then
    t.met.scheduler.requests.take? fun r => t.offer.satisfies t.met.scheduler.settings.role r.spec
  else none

/-- For how long the offer is declined if no launch is tried on it: for long if nobody waits. -/
def refusal (t : Turn δ κ) : Duration :=
  if t.waiting = [] then t.met.scheduler.settings.declineFor else shortDecline

variable [ClusterDriver δ]

def after (now : Instant) (t : Turn δ κ) : Placement δ κ := t.met.offer now t.offer

/-- What has happened on the link in the turn. -/
def exchanges (now : Instant) (t : Turn δ κ) : List Exchange :=
  (t.after now).log.drop t.met.log.length

/-- The offers that are to be declined because of the turn, and for how long. -/
def declines (now : Instant) (t : Turn δ κ) : List (OfferId × Duration) :=
  (t.after now).declines.drop t.met.declines.length

variable {now : Instant} {t : Turn δ κ}

omit [ClusterDriver δ] in
theorem attempt?_eq_some_iff {r : Request κ} {rest : RequestQueue κ} :
    t.attempt? now = some (r, rest) ↔ t.offer.isAvailable now = true ∧
      t.met.scheduler.requests.take?
        (fun r => t.offer.satisfies t.met.scheduler.settings.role r.spec) = some (r, rest) := by
  rw [attempt?]
  split
  · next available => exact ⟨fun found => ⟨available, found⟩, And.right⟩
  · next gone => exact ⟨nofun, fun tried => absurd tried.1 gone⟩

omit [ClusterDriver δ] in
/-- A launch is tried only while somebody waits. -/
theorem waiting_ne_nil_of_attempt {r : Request κ} {rest : RequestQueue κ}
    (tried : t.attempt? now = some (r, rest)) : t.waiting ≠ [] := by
  obtain ⟨-, found⟩ := attempt?_eq_some_iff.1 tried
  obtain ⟨before, after, split, -⟩ := RequestQueue.exists_of_take? found
  rw [waiting, Placement.waiting, split]
  exact List.append_ne_nil_of_right_ne_nil _ (List.cons_ne_nil _ _)

/-- A request that is found is launched. -/
theorem after_of_attempt {r : Request κ} {rest : RequestQueue κ}
    (tried : t.attempt? now = some (r, rest)) : t.after now = t.met.launch t.offer r rest := by
  have somebody : ¬ t.met.scheduler.requests.isEmpty = true := fun empty =>
    waiting_ne_nil_of_attempt tried (List.isEmpty_iff.1 empty)
  obtain ⟨available, found⟩ := attempt?_eq_some_iff.1 tried
  simp only [after, Placement.offer, if_neg somebody, if_pos available, found]

/-- An offer that meets nobody is left unused, and no label counts as unmatched any more. -/
theorem after_of_waiting_eq_nil (nobody : t.waiting = []) :
    t.after now = Placement.decline
      { t.met with scheduler := { t.met.scheduler with unmatched := [] } } t.offer t.refusal := by
  have empty : t.met.scheduler.requests.isEmpty = true := List.isEmpty_iff.2 nobody
  simp only [after, Placement.offer, refusal, if_pos empty, if_pos nobody]

/-- An offer for which none of those who wait is found is left unused, and that is all. -/
theorem after_of_passed_over (somebody : t.waiting ≠ []) (none : t.attempt? now = none) :
    t.after now = t.met.decline t.offer t.refusal := by
  have some_ : ¬ t.met.scheduler.requests.isEmpty = true := fun empty =>
    somebody (List.isEmpty_iff.1 empty)
  simp only [after, Placement.offer, refusal, if_neg some_, if_neg somebody]
  rw [attempt?] at none
  split
  · next available =>
      rw [if_pos available] at none
      rw [none]
  · rfl

/-- An offer for which no request is found is left unused. -/
theorem after_of_attempt_eq_none (none : t.attempt? now = none) :
    ∃ unmatched, t.after now = Placement.decline
      { t.met with scheduler := { t.met.scheduler with unmatched := unmatched } }
      t.offer t.refusal := by
  by_cases nobody : t.waiting = []
  · exact ⟨[], after_of_waiting_eq_nil nobody⟩
  · exact ⟨_, after_of_passed_over nobody none⟩

/-- The offer is used up by a launch, or it is declined once, also when a launch on it has failed.
In either case nothing else is said on the link. -/
theorem after_cases (now : Instant) (t : Turn δ κ) :
    ((t.after now).declines = t.met.declines ∧
      ∃ r rest task, t.attempt? now = some (r, rest) ∧ t.met.build t.offer r = .ok task ∧
        (t.after now).log = t.met.log ++ [.call (.launch t.offer.id task) (.ok ())]) ∨
    (t.after now).declines = t.met.declines ++ [(t.offer.id, t.refusal)] ∧
      ((t.after now).log = t.met.log ∨
        ∃ r rest task e, t.attempt? now = some (r, rest) ∧ t.met.build t.offer r = .ok task ∧
          (t.after now).log = t.met.log ++ [.call (.launch t.offer.id task) (.error e)]) := by
  cases tried : t.attempt? now with
  | none =>
      obtain ⟨unmatched, unused⟩ := after_of_attempt_eq_none tried
      right
      rw [unused]
      exact ⟨rfl, .inl rfl⟩
  | some taken =>
      obtain ⟨r, rest⟩ := taken
      have shortly : t.refusal = shortDecline := if_neg (waiting_ne_nil_of_attempt tried)
      rw [after_of_attempt tried, shortly]
      obtain ⟨task, built, log, declined⟩ | ⟨declined, log | ⟨task, e, built, log⟩⟩ :=
        t.met.launch_cases t.offer r rest
      · exact .inl ⟨declined, r, rest, task, rfl, built, log⟩
      · exact .inr ⟨declined, .inl log⟩
      · exact .inr ⟨declined, .inr ⟨r, rest, task, e, rfl, built, log⟩⟩

theorem log_after (now : Instant) (t : Turn δ κ) :
    (t.after now).log = t.met.log ++ t.exchanges now := by
  obtain ⟨-, _, _, _, -, -, log⟩ | ⟨-, log | ⟨_, _, _, _, -, -, log⟩⟩ := t.after_cases now
  all_goals simp [exchanges, log]

theorem declines_after (now : Instant) (t : Turn δ κ) :
    (t.after now).declines = t.met.declines ++ t.declines now := by
  obtain ⟨declined, -⟩ | ⟨declined, -⟩ := t.after_cases now
  all_goals simp [declines, declined]

/-- What is launched in a turn is the task of the request that was found, on the offer of the turn.
-/
theorem exists_attempt_of_launch {offer : OfferId} {task : Task Float} {answer : Answer}
    (called : .call (.launch offer task) answer ∈ t.exchanges now) :
    offer = t.offer.id ∧ ∃ r rest, t.attempt? now = some (r, rest) ∧
      t.met.build t.offer r = .ok task := by
  obtain ⟨-, r, rest, other, tried, built, log⟩ |
    ⟨-, log | ⟨r, rest, other, e, tried, built, log⟩⟩ := t.after_cases now
  · simp only [exchanges, log, List.drop_left, List.mem_singleton] at called
    cases called
    exact ⟨rfl, r, rest, tried, built⟩
  · simp only [exchanges, log, List.drop_length] at called
    cases called
  · simp only [exchanges, log, List.drop_left, List.mem_singleton] at called
    cases called
    exact ⟨rfl, r, rest, tried, built⟩

/-- The task of a launch that succeeds is tracked; otherwise the turn tracks nothing. -/
theorem tracker_after (now : Instant) (t : Turn δ κ) :
    ((t.after now).scheduler.tracker = t.met.scheduler.tracker ∧
      (t.after now).scheduler.launched = t.met.scheduler.launched) ∨
    ∃ l, (t.after now).scheduler.tracker = t.met.scheduler.tracker.insert l ∧
      (t.after now).scheduler.launched = t.met.scheduler.launched ++ [l.id] := by
  cases tried : t.attempt? now with
  | none =>
      obtain ⟨unmatched, unused⟩ := after_of_attempt_eq_none tried
      rw [unused]
      exact .inl ⟨rfl, rfl⟩
  | some taken =>
      obtain ⟨r, rest⟩ := taken
      rw [after_of_attempt tried]
      obtain ⟨result, tracked, -, launched⟩ | ⟨e, result, tracked, -, launched⟩ :=
        t.met.scheduler.launcher.submit_cases t.met.scheduler.session.link t.offer r
          (t.offer.allocation t.met.scheduler.settings.role r.spec) t.met.scheduler.tracker
      · right
        simp only [Placement.launch, result, Scheduler.launched, tracked, launched]
        exact ⟨_, rfl, rfl⟩
      · left
        simp only [Placement.launch, Placement.decline, result, Scheduler.launched, tracked,
          launched, and_self]

end Turn

/-! ## The turns of a batch -/

namespace Placement

variable [ClusterDriver δ]

def turns (now : Instant) (p : Placement δ κ) : List (Offer Float) → List (Turn δ κ)
  | [] => []
  | o :: rest => ⟨p, o⟩ :: (p.offer now o).turns now rest

@[simp] theorem map_offer_turns (now : Instant) (p : Placement δ κ) (batch : List (Offer Float)) :
    (p.turns now batch).map (·.offer) = batch := by
  induction batch generalizing p with
  | nil => rfl
  | cons o rest ih => rw [turns, List.map_cons, ih]

/-- What grows in every turn has grown in the end by what the turns have added. -/
theorem foldl_offer_eq_append {α : Type} {now : Instant} {view : Placement δ κ → List α}
    {added : Turn δ κ → List α} (each : ∀ t, view (t.after now) = view t.met ++ added t)
    (batch : List (Offer Float)) (p : Placement δ κ) :
    view (batch.foldl (offer now) p) = view p ++ (p.turns now batch).flatMap added := by
  induction batch generalizing p with
  | nil => exact (List.append_nil _).symm
  | cons o rest ih =>
      have first : view (p.offer now o) = view p ++ added ⟨p, o⟩ := each ⟨p, o⟩
      rw [List.foldl_cons, ih, first, turns, List.flatMap_cons, List.append_assoc]

/-- What holds between the beginning and the end of every turn holds of the whole batch. -/
theorem rel_foldl_offer {now : Instant} {R : Placement δ κ → Placement δ κ → Prop}
    (refl : ∀ p, R p p) (trans : ∀ {p q r}, R p q → R q r → R p r)
    (each : ∀ t : Turn δ κ, R t.met (t.after now)) (batch : List (Offer Float))
    (p : Placement δ κ) : R p (batch.foldl (offer now) p) := by
  induction batch generalizing p with
  | nil => exact refl p
  | cons o rest ih => exact trans (each ⟨p, o⟩) (ih _)

/-- It also holds from the beginning of the batch to that of each turn, and from there to the end of
the batch. -/
theorem rel_of_mem_turns {now : Instant} {R : Placement δ κ → Placement δ κ → Prop}
    (refl : ∀ p, R p p) (trans : ∀ {p q r}, R p q → R q r → R p r)
    (each : ∀ t : Turn δ κ, R t.met (t.after now)) {batch : List (Offer Float)}
    {p : Placement δ κ} {t : Turn δ κ} (h : t ∈ p.turns now batch) :
    R p t.met ∧ R t.met (batch.foldl (offer now) p) := by
  induction batch generalizing p with
  | nil => cases h
  | cons o rest ih =>
      obtain rfl | later := List.mem_cons.1 h
      · exact ⟨refl p, rel_foldl_offer refl trans each (o :: rest) p⟩
      · obtain ⟨before, after⟩ := ih later
        exact ⟨trans (each ⟨p, o⟩) before, after⟩

end Placement

namespace Scheduler

variable [ClusterDriver δ]

/-- The turns of a batch that the scheduler places. -/
def turns (now : Instant) (s : Scheduler δ κ) (batch : List (Offer Float)) : List (Turn δ κ) :=
  Placement.turns now ⟨s, [], []⟩ (arrangeByAffinity s.affinity batch)

/-- Each offer of a batch has a turn. -/
theorem perm_map_offer_turns (now : Instant) (s : Scheduler δ κ) (batch : List (Offer Float)) :
    ((s.turns now batch).map (·.offer)).Perm batch := by
  rw [turns, Placement.map_offer_turns]
  exact perm_arrangeByAffinity s.affinity batch

/-- What is said on the link while a batch is placed is what is said in the turns. -/
theorem log_place (now : Instant) (s : Scheduler δ κ) (batch : List (Offer Float)) :
    (s.place now batch).log = s.log ++ (s.turns now batch).flatMap (·.exchanges now) :=
  Placement.foldl_offer_eq_append (Turn.log_after now) _ ⟨s, [], []⟩

/-- The offers to decline are those that are left over by their turns. -/
theorem declines_place (now : Instant) (s : Scheduler δ κ) (batch : List (Offer Float)) :
    (s.place now batch).declines = (s.turns now batch).flatMap (·.declines now) :=
  Placement.foldl_offer_eq_append (Turn.declines_after now) _ ⟨s, [], []⟩

/-- The settings are the same in all turns. -/
theorem settings_of_mem_turns {now : Instant} {s : Scheduler δ κ} {batch : List (Offer Float)}
    {t : Turn δ κ} (h : t ∈ s.turns now batch) : t.met.scheduler.settings = s.settings := by
  have placed : Placed s t.met.scheduler :=
    (Placement.rel_of_mem_turns (R := fun p q => Placed p.scheduler q.scheduler)
      (fun p => .refl p.scheduler) .trans (fun t => placed_offer now t.met t.offer) h).1
  exact placed.settings_eq

end Scheduler

end OfferDispatch
