import OfferDispatch.Proofs.Turns

/-!
# First fit

Whose turn it is takes the earliest request that it satisfies, and one that satisfies nobody takes
none. As the queue only shrinks while a batch is placed, whoever is passed over in a turn and still
waits at the end was there to be chosen in it. So when a batch has been placed, nobody is left
waiting for an offer that lay unused.
-/

namespace OfferDispatch

variable {δ κ : Type}

namespace Offer

/-- An offer that is evaluated for a worker is accepted if it satisfies the worker. -/
theorem isOk_evaluate (o : Offer Float) (role : String) (w : WorkerSpec Float) :
    (o.evaluate role w).isOk = o.satisfies role w := by
  rw [evaluate, satisfies]
  cases o.shortfalls role w <;> rfl

end Offer

namespace Turn

/-- The request whose launch is tried in the turn. -/
def tried? (now : Instant) (t : Turn δ κ) : Option (Request κ) := (t.attempt? now).map (·.1)

def accepts (t : Turn δ κ) (r : Request κ) : Bool :=
  (t.offer.evaluate t.met.scheduler.settings.role r.spec).isOk

variable [ClusterDriver δ]

/-- The launch of a request is tried in the turn: of the earliest one that waits and is satisfied,
which leaves the queue. -/
def TriesEarliest (now : Instant) (t : Turn δ κ) (r : Request κ) : Prop :=
  ∃ before after, t.waiting = before ++ r :: after ∧
    t.after now = t.met.launch t.offer r ⟨before ++ after⟩ ∧
    t.accepts r = true ∧ ∀ earlier ∈ before, t.accepts earlier = false

/-- No launch is tried in the turn. Apart from the labels that have found no offer, all that changes
is that the offer is to be declined. -/
def LeavesUnused (now : Instant) (t : Turn δ κ) : Prop :=
  ∃ unmatched, t.after now = Placement.decline
    { t.met with scheduler := { t.met.scheduler with unmatched := unmatched } } t.offer t.refusal

variable {now : Instant} {t : Turn δ κ}

theorem triesEarliest_of_attempt {r : Request κ} {rest : RequestQueue κ}
    (tried : t.attempt? now = some (r, rest)) : t.TriesEarliest now r := by
  obtain ⟨-, found⟩ := attempt?_eq_some_iff.1 tried
  obtain ⟨before, after, split, remaining, fits, others⟩ :=
    RequestQueue.exists_earliest_of_take? found
  have queue : rest = ⟨before ++ after⟩ := congrArg RequestQueue.mk remaining
  refine ⟨before, after, split, queue ▸ after_of_attempt tried, ?_, ?_⟩
  · rw [accepts, Offer.isOk_evaluate]
    exact fits
  · intro earlier member
    rw [accepts, Offer.isOk_evaluate]
    exact others earlier member

theorem triesEarliest_of_tried {r : Request κ} (tried : t.tried? now = some r) :
    t.TriesEarliest now r := by
  obtain ⟨⟨r, rest⟩, attempt, rfl⟩ := Option.map_eq_some_iff.1 tried
  exact triesEarliest_of_attempt attempt

theorem leavesUnused_of_tried (none : t.tried? now = none) : t.LeavesUnused now :=
  after_of_attempt_eq_none (Option.map_eq_none_iff.1 none)

omit [ClusterDriver δ] in
/-- If an agent is up and no launch is tried on its offer, then the offer satisfies nobody. -/
theorem not_accepts_of_tried (none : t.tried? now = none)
    (available : t.offer.isAvailable now = true) {r : Request κ} (waits : r ∈ t.waiting) :
    t.accepts r = false := by
  have nobody := Option.map_eq_none_iff.1 none
  rw [attempt?, if_pos available, RequestQueue.take?, Option.map_eq_none_iff] at nobody
  rw [accepts, Offer.isOk_evaluate]
  simpa using List.find?_eq_none.1 nobody r waits

/-- Whoever is tried leaves the queue, and nobody else comes or goes. -/
theorem waiting_after (now : Instant) (t : Turn δ κ) :
    (t.after now).waiting.Sublist t.waiting ∧
      ((t.tried? now).toList ++ (t.after now).waiting).Perm t.waiting := by
  cases tried : t.tried? now with
  | none =>
      obtain ⟨unmatched, unused⟩ := leavesUnused_of_tried tried
      rw [unused]
      exact ⟨.refl _, .refl _⟩
  | some r =>
      obtain ⟨before, after, split, launched, -, -⟩ := triesEarliest_of_tried tried
      have gone : (t.after now).waiting = before ++ after := by
        rw [launched, Placement.waiting, Scheduler.requests_launch]
      rw [gone, split]
      constructor
      · exact List.Sublist.append_left (List.sublist_cons_self r after) before
      · rw [Option.toList_some, List.singleton_append]
        exact List.perm_middle.symm

end Turn

variable [ClusterDriver δ]

namespace Placement

/-- Those who are tried in the turns of a batch, together with those who are left, are all who
waited. -/
theorem perm_tried_waiting (now : Instant) (batch : List (Offer Float)) (p : Placement δ κ) :
    ((p.turns now batch).filterMap (·.tried? now) ++
      (batch.foldl (offer now) p).waiting).Perm p.waiting := by
  induction batch generalizing p with
  | nil => exact .refl _
  | cons o rest ih =>
      have first : (((⟨p, o⟩ : Turn δ κ).tried? now).toList ++ (p.offer now o).waiting).Perm
        p.waiting := (Turn.waiting_after now ⟨p, o⟩).2
      have split : (p.turns now (o :: rest)).filterMap (·.tried? now) =
          ((⟨p, o⟩ : Turn δ κ).tried? now).toList ++
            ((p.offer now o).turns now rest).filterMap (·.tried? now) := by
        rw [turns, List.filterMap_cons]
        cases (⟨p, o⟩ : Turn δ κ).tried? now <;> rfl
      rw [List.foldl_cons, split, List.append_assoc]
      exact ((ih _).append_left _).trans first

/-- The queue only shrinks. -/
theorem waiting_foldl_offer_sublist (now : Instant) (batch : List (Offer Float))
    (p : Placement δ κ) : (batch.foldl (offer now) p).waiting.Sublist p.waiting :=
  rel_foldl_offer (R := fun p q => q.waiting.Sublist p.waiting) (fun _ => .refl _)
    (fun first second => second.trans first) (fun t => (t.waiting_after now).1) batch p

/-- Who waits in a turn has waited from the beginning, and who waits when the batch has been placed
has waited in each of its turns. -/
theorem waiting_sublist_of_mem_turns {now : Instant} {batch : List (Offer Float)}
    {p : Placement δ κ} {t : Turn δ κ} (h : t ∈ p.turns now batch) :
    t.waiting.Sublist p.waiting ∧ (batch.foldl (offer now) p).waiting.Sublist t.waiting :=
  rel_of_mem_turns (R := fun p q => q.waiting.Sublist p.waiting) (fun _ => .refl _)
    (fun first second => second.trans first) (fun t => (t.waiting_after now).1) h

end Placement

namespace Scheduler

theorem waiting_place_sublist (now : Instant) (s : Scheduler δ κ) (batch : List (Offer Float)) :
    (s.place now batch).waiting.Sublist s.requests.waiting :=
  Placement.waiting_foldl_offer_sublist now _ ⟨s, [], []⟩

/-- Offers are matched by first fit. Each offer of a batch has its turn, in which the launch of the
earliest request is tried that still waits and that the offer satisfies, if there is one. The queue
loses exactly those requests and keeps its order. Nobody is left waiting whom an offer satisfies
that lay unused though its agent was up. -/
theorem first_fit (env : Surroundings) (s : Scheduler δ κ) (batch : List (Offer Float)) :
    let turns := s.turns env.now batch
    let left := (s.run env (.process batch)).scheduler.requests.waiting
    (turns.map (·.offer)).Perm batch ∧
      (∀ t ∈ turns, t.met.scheduler.settings = s.settings ∧
        match t.tried? env.now with
        | some r => t.TriesEarliest env.now r
        | none => t.LeavesUnused env.now) ∧
      left.Sublist s.requests.waiting ∧
      (turns.filterMap (·.tried? env.now) ++ left).Perm s.requests.waiting ∧
      ∀ r ∈ left, ∀ t ∈ turns, t.offer.isAvailable env.now = true →
        t.tried? env.now = none → t.accepts r = false := by
  intro turns left
  have remaining : left = (s.place env.now batch).waiting :=
    congrArg RequestQueue.waiting (s.quiet_run_process env batch).requests
  have tried : (turns.filterMap (·.tried? env.now) ++ left).Perm s.requests.waiting := by
    rw [remaining]
    exact Placement.perm_tried_waiting env.now _ ⟨s, [], []⟩
  refine ⟨s.perm_map_offer_turns env.now batch, ?_, ?_, tried, ?_⟩
  · intro t member
    refine ⟨settings_of_mem_turns member, ?_⟩
    cases tried : t.tried? env.now with
    | some r => exact Turn.triesEarliest_of_tried tried
    | none => exact Turn.leavesUnused_of_tried tried
  · rw [remaining]
    exact s.waiting_place_sublist env.now batch
  · intro r waits t member available none
    refine Turn.not_accepts_of_tried none available ?_
    rw [remaining] at waits
    exact (Placement.waiting_sublist_of_mem_turns member).2.mem waits

end Scheduler

namespace Plain

/-- A worker is requested that no plain offer satisfies, and another one after it. -/
def crowding : List (Demand Unit) :=
  [⟨moment, .request { worker "big" with cpus := 8.0 } ()⟩, ⟨moment, .request (worker "w") ()⟩]

def crowded : Scheduler Recorder Unit := (scheduler.after crowding).scheduler

-- The one that fits is launched past the other, which stays though a second offer lies unused.
example : (crowded.run moment (.process [offer "o", offer "p"])).scheduler.requests.names =
      [⟨"big"⟩] ∧
    (crowded.run moment (.process [offer "o", offer "p"])).scheduler.launched = [⟨"w"⟩] := by
  decide +kernel

end Plain

end OfferDispatch
