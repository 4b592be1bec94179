import OfferDispatch.Proofs.FirstFit
import OfferDispatch.Proofs.Suitability

/-!
# Launches are on offers that suit

A worker is looked at when its request comes in: it is given the selector of its label, and its cpus
are checked. From then on the request is carried along unchanged, and the offer that satisfies it is
the one that it is launched on, at the time at which the batch is placed. So whenever a launch is
tried, the offer is one of the batch that is being placed, and it suits the worker that was asked
for.

This is shown of single actions in whatever order they are done, and so of operations that run one
after another as well as of callers who get in between each other.
-/

namespace OfferDispatch

variable {δ κ : Type}

theorem Launcher.agent_of_build {l : Launcher} {o : Offer Float} {w : WorkerSpec Float}
    {allocated : List UInt64} {task : Task Float} (h : l.build o w allocated = .ok task) :
    task.agent = o.agent := by
  rw [build] at h
  split at h
  · cases h
  · cases h
    rfl

variable [ClusterDriver δ]

/-! ## Launches are for batches -/

namespace Scheduler

omit [ClusterDriver δ] in
/-- The offers that an action places. -/
def batch (s : Scheduler δ κ) : Action κ → List (Offer Float)
  | .place offers => offers
  | .turn _ => s.buffer.offers
  | _ => []

/-- No launch is tried by an action that places no offers. -/
theorem saysNoLaunch_perform (env : Surroundings) (s : Scheduler δ κ) {action : Action κ}
    (none : s.batch action = []) : SaysNoLaunch s.log (s.perform env action).2.log := by
  by_cases minor : action.isMinor = true
  · exact (minor_perform env s minor).said
  cases action with
  | stop => exact Session.saysNoLaunch_stop s.session
  | supervise | inspect => exact saysNoLaunch_supervise env.nodes s
  | place offers =>
      have empty : offers.isEmpty = true := List.isEmpty_iff.2 none
      rw [perform, if_pos empty]
      exact .refl _
  | turn generation =>
      have empty : s.buffer.drain.1.isEmpty = true := List.isEmpty_iff.2 none
      simp only [perform, turn, if_pos empty]
      split <;> exact .refl _
  | _ => exact absurd rfl minor

/-! ## Requests are carried along -/

/-- A request that waits has waited before, or it has just been taken in with the selector of its
label and cpus that are not negative. -/
theorem mem_waiting_perform {env : Surroundings} {s : Scheduler δ κ} {action : Action κ}
    {r : Request κ} (waits : r ∈ (s.perform env action).2.requests.waiting) :
    r ∈ s.requests.waiting ∨ ∃ new : Request κ, action = .enlist new ∧ 0.0 ≤ new.spec.cpus ∧
      r = ⟨constrain s.settings new.spec, new.callback⟩ := by
  by_cases quiet : action.isQuiet = true
  · rw [(quiet_perform env s quiet).requests] at waits
    exact .inl waits
  cases action with
  | enlist new =>
      simp only [perform, enlist] at waits
      split at waits
      · next valid =>
          split at waits
          · exact .inl waits
          · obtain before | last := List.mem_append.1 waits
            · exact .inl before
            · exact .inr ⟨new, rfl, valid.1, List.mem_singleton.1 last⟩
      · exact .inl waits
  | withdraw worker e => exact .inl (List.mem_of_mem_eraseP waits)
  | cancel worker =>
      simp only [perform, cancel] at waits
      split at waits
      · exact .inl waits
      · split at waits
        · next taken rest found =>
            obtain ⟨before, after, split, remaining, -⟩ := RequestQueue.exists_of_take? found
            have sub : rest.waiting.Sublist s.requests.waiting := by
              rw [split, remaining]
              exact List.Sublist.append_left (List.sublist_cons_self _ _) _
            exact .inl (sub.mem waits)
        · exact .inl waits
  | place offers =>
      simp only [perform] at waits
      split at waits
      · exact .inl waits
      · exact .inl ((s.waiting_place_sublist env.now offers).mem waits)
  | turn generation =>
      simp only [perform, turn] at waits
      split at waits
      · split at waits
        · exact .inl waits
        · have sub := waiting_place_sublist env.now { s with buffer := s.buffer.drain.2 }
            s.buffer.drain.1
          exact .inl (sub.mem waits)
      · exact .inl waits
  | apply status =>
      simp only [perform, apply] at waits
      split at waits
      · exact .inl waits
      · split at waits <;> exact .inl waits
  | supervise | inspect =>
      simp only [perform, requests_supervise] at waits
      exact .inl waits
  | stop | release => exact .inl waits
  | _ => exact (quiet rfl).elim

/-- A scheduler that has come about from a new one through single actions, whoever did them and in
whatever order, where only certain requests were asked for. -/
inductive Arises (asked : Request κ → Prop) (settings : SchedulerSettings) (session : Session δ) :
    Scheduler δ κ → Prop
  | new : Arises asked settings session (.new settings session)
  | act (env : Surroundings) {s : Scheduler δ κ} {action : Action κ}
      (ok : ∀ r, action = .enlist r → asked r) (before : Arises asked settings session s) :
      Arises asked settings session (s.perform env action).2

/-- Every request that waits is one that was asked for, with the selector of its label, and its cpus
are not negative. -/
structure Serves (asked : Request κ → Prop) (settings : SchedulerSettings) (s : Scheduler δ κ) :
    Prop where
  settings_eq : s.settings = settings
  waiting : ∀ r ∈ s.requests.waiting, ∃ spec, asked ⟨spec, r.callback⟩ ∧
    r.spec = constrain settings spec ∧ 0.0 ≤ spec.cpus

variable {asked : Request κ → Prop} {settings : SchedulerSettings} {session : Session δ}
  {s : Scheduler δ κ}

theorem Serves.perform (h : s.Serves asked settings) (env : Surroundings) {action : Action κ}
    (ok : ∀ r, action = .enlist r → asked r) : (s.perform env action).2.Serves asked settings where
  settings_eq := (settings_perform env s action).trans h.settings_eq
  waiting := by
    intro r waits
    obtain before | ⟨new, enlists, valid, rfl⟩ := mem_waiting_perform waits
    · exact h.waiting r before
    · exact ⟨new.spec, ok new enlists, congrArg (constrain · new.spec) h.settings_eq, valid⟩

theorem Arises.serves (h : s.Arises asked settings session) : s.Serves asked settings := by
  induction h with
  | new => exact ⟨rfl, nofun⟩
  | act env ok _ ih => exact ih.perform env ok

theorem Arises.mono {more : Request κ → Prop} (h : s.Arises asked settings session)
    (sub : ∀ r, asked r → more r) : s.Arises more settings session := by
  induction h with
  | new => exact .new
  | act env ok _ ih => exact ih.act env fun r enlists => sub r (ok r enlists)

/-- What an operation comes down to are actions, of which only the first takes in a request. -/
theorem Arises.run (h : s.Arises asked settings session) (env : Surroundings) {o : Operation κ}
    (ok : ∀ spec callback, o = .request spec callback → asked ⟨spec, callback⟩) :
    (s.run env o).scheduler.Arises asked settings session := by
  let allowed (action : Action κ) : Prop := ∀ r, action = .enlist r → asked r
  have follows : ∀ (t : Scheduler δ κ) (action : Action κ), allowed action →
      ∀ next ∈ (t.perform env action).1, allowed next := by
    rintro t action - next member r rfl
    cases isInitial_of_mem_perform member
  have agenda : ∀ action ∈ o.agenda s.settings, allowed action := by
    rintro action member r rfl
    cases o with
    | request spec callback =>
        obtain rfl := Action.enlist.inj (List.mem_singleton.1 member)
        exact ok spec callback rfl
    | offers delivered =>
        cases multi : s.settings.multiThreaded <;> simp [Operation.agenda, multi] at member
    | _ => simp [Operation.agenda] at member
  exact run_preserves_of_allowed (P := Arises asked settings session)
    (fun t action ok before => before.act env ok) follows agenda h

end Scheduler

/-- What becomes of a scheduler that is asked one thing after another has come about in actions. -/
theorem History.arises_after (settings : SchedulerSettings) (session : Session δ)
    (demands : List (Demand κ)) :
    ((Scheduler.new settings session).after demands).scheduler.Arises
      (fun r => ∃ d ∈ demands, d.operation = .request r.spec r.callback) settings session := by
  induction demands using List.reverseRecOn with
  | nil => exact .new
  | append_singleton demands d ih =>
      rw [Scheduler.after_concat]
      refine Scheduler.Arises.run (ih.mono ?_) d.env ?_
      · rintro r ⟨earlier, member, made⟩
        exact ⟨earlier, List.mem_append_left _ member, made⟩
      · intro spec callback made
        exact ⟨d, List.mem_append_right _ (List.mem_singleton_self d), made⟩

/-! ## Whatever is launched may be launched -/

namespace Scheduler

variable {asked : Request κ → Prop} {settings : SchedulerSettings} {session : Session δ}
  {s : Scheduler δ κ}

omit [ClusterDriver δ] in
/-- A task may be launched on an offer that is one of those there are: the agent of the task is that
of the offer, and the task is that of a request that was asked for and waits, and that the offer
suits as it was asked for. -/
def MayLaunch (asked : Request κ → Prop) (settings : SchedulerSettings) (now : Instant)
    (s : Scheduler δ κ) (offers : List (Offer Float)) (offer : OfferId) (task : Task Float) :
    Prop :=
  ∃ o ∈ offers, o.id = offer ∧ task.agent = o.agent ∧
    ∃ spec callback, asked ⟨spec, callback⟩ ∧
      ⟨constrain settings spec, callback⟩ ∈ s.requests.waiting ∧
      task.id = spec.name ∧ o.Suits settings now spec

/-- While a batch is placed, only what may be launched is tried. -/
theorem Serves.mayLaunch (h : s.Serves asked settings) {now : Instant}
    {batch : List (Offer Float)} {t : Turn δ κ} (member : t ∈ s.turns now batch)
    {offer : OfferId} {task : Task Float} {answer : Answer}
    (called : .call (.launch offer task) answer ∈ t.exchanges now) :
    s.MayLaunch asked settings now batch offer task := by
  obtain ⟨rfl, r, rest, attempt, built⟩ := Turn.exists_attempt_of_launch called
  obtain ⟨available, found⟩ := Turn.attempt?_eq_some_iff.1 attempt
  obtain ⟨before, after, split, -, satisfied⟩ := RequestQueue.exists_of_take? found
  have waits : r ∈ s.requests.waiting := by
    refine (Placement.waiting_sublist_of_mem_turns member).1.mem ?_
    rw [Turn.waiting, Placement.waiting, split]
    exact List.mem_append_right _ List.mem_cons_self
  obtain ⟨spec, made, constrained, valid⟩ := h.waiting r waits
  have offered : t.offer ∈ batch :=
    (s.perm_map_offer_turns now batch).mem_iff.1 (List.mem_map_of_mem member)
  have same : r = ⟨constrain settings spec, r.callback⟩ := by
    rw [← constrained]
  refine ⟨t.offer, offered, rfl, Launcher.agent_of_build built, spec, r.callback, made,
    same ▸ waits, ?_, ?_⟩
  · rw [Launcher.id_of_build built, constrained, name_constrain]
  · rw [settings_of_mem_turns member, h.settings_eq, constrained] at satisfied
    exact Offer.suits_of_satisfies available valid satisfied

theorem Arises.drain (h : s.Arises asked settings session) :
    Arises asked settings session { s with buffer := s.buffer.drain.2 } := by
  have drained : ∀ r : Request κ, Action.drain = .enlist r → asked r := nofun
  exact h.act ⟨⟨0, 0⟩, 0⟩ drained

theorem Arises.place (h : s.Arises asked settings session) (now : Instant)
    (batch : List (Offer Float)) :
    ∃ said, (s.place now batch).log = s.log ++ said ∧
      ∀ offer task answer, .call (.launch offer task) answer ∈ said →
        s.MayLaunch asked settings now batch offer task := by
  refine ⟨_, s.log_place now batch, ?_⟩
  intro offer task answer called
  obtain ⟨t, member, called⟩ := List.mem_flatMap.1 called
  exact h.serves.mayLaunch member called

/-- Whenever a launch is tried, in whatever state and with whatever answers, the offer is one of
those that are placed at that time, and it suits the request that was asked for. -/
theorem Arises.launches_suit (h : s.Arises asked settings session) (env : Surroundings)
    (action : Action κ) :
    ∃ said, (s.perform env action).2.log = s.log ++ said ∧
      ∀ offer task answer, .call (.launch offer task) answer ∈ said →
        s.MayLaunch asked settings env.now (s.batch action) offer task := by
  by_cases none : s.batch action = []
  · obtain ⟨said, log, silent⟩ := s.saysNoLaunch_perform env none
    refine ⟨said, log, ?_⟩
    intro offer task answer called
    cases silent _ called
  cases action with
  | place offers =>
      have some_ : ¬ offers.isEmpty = true := fun empty => none (List.isEmpty_iff.1 empty)
      rw [perform, if_neg some_]
      exact h.place env.now offers
  | turn generation =>
      have some_ : ¬ s.buffer.drain.1.isEmpty = true := fun empty =>
        none (List.isEmpty_iff.1 empty)
      simp only [perform, turn, if_neg some_]
      split
      · exact h.drain.place env.now s.buffer.offers
      · refine ⟨[], (List.append_nil _).symm, ?_⟩
        intro offer task answer called
        cases called
  | _ => exact absurd rfl none

end Scheduler

namespace Plain

/-- The smaller one of two workers is launched, on an offer that suits it. -/
theorem launches_suit_crowded :
    (crowded.perform moment (.place [offer "o"])).2.launched = [⟨"w"⟩] ∧
      (offer "o").Suits {} moment.now (worker "w") := by
  have launched : (crowded.perform moment (.place [offer "o"])).2.launched = [⟨"w"⟩] := by
    decide +kernel
  refine ⟨launched, ?_⟩
  have arises : crowded.Arises _ {} session := History.arises_after {} session crowding
  obtain ⟨said, log, safe⟩ := arises.launches_suit moment (.place [offer "o"])
  have none : crowded.launched = [] := by decide +kernel
  have launches : ⟨"w"⟩ ∈ (crowded.perform moment (.place [offer "o"])).2.launched := by
    rw [launched]
    exact List.mem_singleton_self _
  obtain ⟨id, task, called, named⟩ := Scheduler.mem_launched_iff.1 launches
  rw [log] at called
  obtain earlier | called := List.mem_append.1 called
  · have before : task.id ∈ crowded.launched :=
      Scheduler.mem_launched_iff.2 ⟨id, task, earlier, rfl⟩
    rw [none] at before
    cases before
  obtain ⟨o, placed, -, -, spec, callback, ⟨d, asked, made⟩, -, same, suits⟩ :=
    safe id task _ called
  obtain rfl := List.mem_singleton.1 placed
  obtain rfl | rfl : d = ⟨moment, .request { worker "big" with cpus := 8.0 } ()⟩ ∨
      d = ⟨moment, .request (worker "w") ()⟩ := by
    simpa [crowding] using asked
  · cases made
    exact absurd (named.symm.trans same) (by decide)
  · cases made
    exact suits

end Plain

end OfferDispatch
