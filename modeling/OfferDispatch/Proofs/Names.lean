import Mathlib.Data.List.Nodup
import OfferDispatch.Proofs.Bookkeeping

/-!
# Names have one owner

A name is looked at once, when a request comes in; from then on it is carried from the queue to the
live tasks and on to the records of ended ones, and nobody asks again whether it is free. It need
not be asked: wherever a scheduler can get, each name has one owner. In particular, no launch
overwrites what is known of another task, and none is for a task that is on record.

How a scheduler gets somewhere is left as open as possible. It may be through operations that run
one after another or through the actions of several callers in any order.
-/

namespace OfferDispatch

variable {δ κ : Type}

namespace Scheduler

/-- No name is owned twice by requests, live tasks and the records of ended ones. -/
structure OwnsNames (s : Scheduler δ κ) : Prop where
  waiting : s.requests.names.Nodup
  live : (s.tracker.live.map (·.id)).Nodup
  retired : (s.tracker.retired.map (·.1)).Nodup
  waiting_live : s.requests.names.Disjoint (s.tracker.live.map (·.id))
  waiting_retired : s.requests.names.Disjoint (s.tracker.retired.map (·.1))
  live_retired : (s.tracker.live.map (·.id)).Disjoint (s.tracker.retired.map (·.1))
  /-- A live task is what is found under the name of its request. -/
  keyed : ∀ name task, s.tracker.find? name = some task ↔
    task ∈ s.tracker.live ∧ task.request.name = name

theorem find?_eq_some_iff {s : Scheduler δ κ} {created : List (Notice κ)}
    (wn : (s.ledger created).WellNamed) {name : TaskId} {task : LiveTask κ} :
    s.tracker.find? name = some task ↔ task ∈ s.tracker.live ∧ task.request.name = name := by
  constructor
  · intro found
    obtain ⟨same, before, after, split⟩ := Tracker.exists_of_find? found
    exact ⟨by simp [split], same⟩
  · rintro ⟨member, rfl⟩
    obtain ⟨before, after, split⟩ := List.mem_iff_append.1 member
    have nodup : (s.tracker.live.map (·.id)).Nodup := wn.nodup_live
    rw [split] at nodup
    obtain ⟨first, -⟩ := ne_of_nodup_names nodup
    refine List.find?_eq_some_iff_append.2 ⟨beq_self_eq_true _, before, after, split, ?_⟩
    intro other earlier
    simpa [LiveTask.id] using first other earlier

theorem ownsNames {s : Scheduler δ κ} {created : List (Notice κ)}
    (wn : (s.ledger created).WellNamed) : s.OwnsNames := by
  obtain ⟨waiting, tasks, apart⟩ := List.nodup_append'.1 wn
  obtain ⟨live, retired, divided⟩ := List.nodup_append'.1 tasks
  obtain ⟨first, second⟩ := List.disjoint_append_right.1 apart
  exact ⟨waiting, live, retired, first, second, divided, fun _ _ => find?_eq_some_iff wn⟩

variable [ClusterDriver δ]

/-- What becomes of a scheduler in one go: through an operation, or through a single action of a
caller who is in the middle of one. -/
inductive Next : Scheduler δ κ → Scheduler δ κ → Prop
  | operate (env : Surroundings) (s : Scheduler δ κ) (o : Operation κ) :
      Next s (s.run env o).scheduler
  | act (env : Surroundings) (s : Scheduler δ κ) (action : Action κ) :
      Next s (s.perform env action).2

/-- What becomes of a scheduler sooner or later. -/
abbrev Reaches : Scheduler δ κ → Scheduler δ κ → Prop := Relation.ReflTransGen Next

theorem Next.becomes {s t : Scheduler δ κ} (h : Next s t) {created : List (Notice κ)}
    (wn : (s.ledger created).WellNamed) :
    ∃ later, (s.ledger created).Becomes (t.ledger later) := by
  cases h with
  | operate env s o => exact ⟨_, becomes_run env o wn⟩
  | act env s action => exact ⟨_, becomes_perform env action wn⟩

theorem Reaches.becomes {s t : Scheduler δ κ} (h : s.Reaches t) {created : List (Notice κ)}
    (wn : (s.ledger created).WellNamed) :
    ∃ later, (s.ledger created).Becomes (t.ledger later) := by
  induction h with
  | refl => exact ⟨created, .refl⟩
  | tail _ next ih =>
      obtain ⟨sofar, before⟩ := ih
      obtain ⟨later, after⟩ := next.becomes (wn.becomes before)
      exact ⟨later, before.trans after⟩

/-- A request that is taken while offers are placed has a name that no task is known by. -/
theorem isKnown_of_take? {now : Instant} {batch : List (Offer Float)} {s : Scheduler δ κ}
    {created : List (Notice κ)} (wn : (s.ledger created).WellNamed)
    {test : Request κ → Bool} {r : Request κ} {rest : RequestQueue κ}
    (taken : (batch.foldl (Placement.offer now) ⟨s, [], []⟩).scheduler.requests.take? test =
      some (r, rest)) :
    (batch.foldl (Placement.offer now) ⟨s, [], []⟩).scheduler.tracker.isKnown r.name = false := by
  have start : (s.ledger (created ++ [])).WellNamed := by rwa [List.append_nil]
  have placed := leads_foldl_offer now batch (p := ⟨s, [], []⟩) start
  obtain ⟨before, after, split, -, -⟩ := RequestQueue.exists_of_take? taken
  have waits : r ∈ (batch.foldl (Placement.offer now) ⟨s, [], []⟩).scheduler.requests.waiting := by
    simp [split]
  rw [Bool.eq_false_iff]
  intro known
  rw [Tracker.isKnown_iff, ← List.mem_append] at known
  exact (start.leads placed).not_mem_tasks waits known

/-- Wherever a scheduler gets, each name has one owner, also while a batch of offers is placed: the
request that is taken for an offer is one of a new name, so that tracking its task overwrites
nothing. Until the records of ended tasks are forgotten, no two launches are of the same name. -/
theorem names_have_one_owner (settings : SchedulerSettings) (session : Session δ)
    {s t : Scheduler δ κ} (before : (new settings session).Reaches s) (after : s.Reaches t) :
    s.OwnsNames ∧
    (∀ (now : Instant) (batch : List (Offer Float)) (test : Request κ → Bool) (r : Request κ)
      (rest : RequestQueue κ) (offer : OfferId) (agent : AgentId),
      let p := batch.foldl (Placement.offer now) ⟨s, [], []⟩
      p.scheduler.requests.take? test = some (r, rest) →
        p.scheduler.tracker.isKnown r.name = false ∧
        p.scheduler.tracker.insert (.launched offer agent r) =
          { p.scheduler.tracker with
            live := p.scheduler.tracker.live ++ [.launched offer agent r] }) ∧
    (t.generation = s.generation →
      ∃ launches, t.launched = s.launched ++ launches ∧ launches.Nodup) := by
  obtain ⟨created, reached⟩ := before.becomes (wellNamed_new settings session [])
  have wn := (wellNamed_new settings session []).becomes reached
  refine ⟨ownsNames wn, ?_, ?_⟩
  · intro now batch test r rest offer agent p taken
    have new : p.scheduler.tracker.isKnown r.name = false := isKnown_of_take? wn taken
    have untracked : r.name ∉ p.scheduler.tracker.live.map (·.id) := by
      rw [← Tracker.contains_iff]
      exact Bool.eq_false_iff.1 (Bool.or_eq_false_iff.1 new).1
    exact ⟨new, Tracker.insert_eq untracked⟩
  · intro same
    obtain ⟨later, further⟩ := after.becomes wn
    obtain ⟨launches, grown, -, nodup, -⟩ := (further.launches wn).2 same
    exact ⟨launches, grown, nodup⟩

end Scheduler

namespace Plain

def waiting : Scheduler Recorder Unit :=
  (scheduler.run moment (.request (worker "w") ())).scheduler

def busy : Scheduler Recorder Unit := (waiting.run moment (.offers [offer "o"])).scheduler

theorem names_have_one_owner_busy :
    waiting.OwnsNames ∧ waiting.requests.names = [⟨"w"⟩] ∧
      ∃ launches, busy.launched = waiting.launched ++ launches ∧ launches.Nodup ∧
        launches = [⟨"w"⟩] := by
  have before : scheduler.Reaches waiting := .single (.operate _ _ _)
  have after : waiting.Reaches busy := .single (.operate _ _ _)
  obtain ⟨owns, -, once⟩ := Scheduler.names_have_one_owner _ _ before after
  have same : busy.generation = waiting.generation := by decide +kernel
  obtain ⟨launches, grown, nodup⟩ := once same
  refine ⟨owns, by decide +kernel, launches, grown, nodup, ?_⟩
  have launched : busy.launched = [⟨"w"⟩] := by decide +kernel
  have none : waiting.launched = [] := by decide +kernel
  rw [launched, none] at grown
  exact grown.symm

end Plain

end OfferDispatch
