import OfferDispatch.Proofs.PlacementSafety

/-!
# The labels that found no offer

After a batch has been placed, the labels of those who still wait are noted, so that the host learns
which kinds of workers find no offer. A label that has been noted is struck when a request of it is
launched, when an offer meets an empty queue, and when the session is stopped. Nothing else strikes
it. The note does not replace the one of the batch before, so a label stays on it after its last
request was cancelled or its launch has failed.

The labels are followed through single actions, whoever does them and in whatever order.
-/

namespace OfferDispatch

variable {δ κ : Type}

/-! ## What strikes a label in a turn -/

variable [ClusterDriver δ]

namespace Placement

/-- A launch that uses up the offer strikes the label of its request, and its agent is remembered.
-/
theorem remembered_launch_of_used {p : Placement δ κ} {o : Offer Float} {r : Request κ}
    {rest : RequestQueue κ} (used : (p.launch o r rest).declines = p.declines) :
    (p.launch o r rest).scheduler.affinity =
        remember p.scheduler.settings.affinitySize o.agent p.scheduler.affinity ∧
      (p.launch o r rest).scheduler.unmatched =
        p.scheduler.unmatched.filter (· != r.spec.label) := by
  simp only [launch] at used ⊢
  split at used
  · exact ⟨rfl, rfl⟩
  · simp [decline] at used

/-- A launch after which the offer is declined strikes no label, and no agent is remembered. -/
theorem remembered_launch_of_declined {p : Placement δ κ} {o : Offer Float} {r : Request κ}
    {rest : RequestQueue κ}
    (declined : (p.launch o r rest).declines = p.declines ++ [(o.id, shortDecline)]) :
    (p.launch o r rest).scheduler.affinity = p.scheduler.affinity ∧
      (p.launch o r rest).scheduler.unmatched = p.scheduler.unmatched := by
  simp only [launch] at declined ⊢
  split at declined
  · simp at declined
  · exact ⟨rfl, rfl⟩

end Placement

namespace Turn

/-- A request of this label is launched in the turn. -/
def Launches (now : Instant) (t : Turn δ κ) (label : String) : Prop :=
  ∃ r rest task, t.attempt? now = some (r, rest) ∧ r.spec.label = label ∧
    .call (.launch t.offer.id task) (.ok ()) ∈ t.exchanges now

/-- The turn strikes a label: nobody waits any more, or a request of the label is launched. -/
def Strikes (now : Instant) (t : Turn δ κ) (label : String) : Prop :=
  t.waiting = [] ∨ t.Launches now label

/-- Where a launch is tried, the label of its request is struck if the launch succeeds. -/
theorem mem_unmatched_of_attempt {now : Instant} {t : Turn δ κ} {r : Request κ}
    {rest : RequestQueue κ} (tried : t.attempt? now = some (r, rest)) {label : String} :
    label ∈ (t.after now).scheduler.unmatched ↔
      label ∈ t.met.scheduler.unmatched ∧ ¬ t.Launches now label := by
  have launch := after_of_attempt tried
  obtain ⟨task, -, log, used⟩ | ⟨declined, log⟩ := t.met.launch_cases t.offer r rest
  · have said : t.exchanges now = [.call (.launch t.offer.id task) (.ok ())] := by
      rw [exchanges, launch, log, List.drop_left]
    have own : t.Launches now label ↔ r.spec.label = label := by
      constructor
      · rintro ⟨other, _, _, attempt, labelled, -⟩
        cases tried.symm.trans attempt
        exact labelled
      · intro labelled
        refine ⟨r, rest, task, tried, labelled, ?_⟩
        rw [said]
        exact List.mem_singleton_self _
    rw [own, launch, (Placement.remembered_launch_of_used used).2, List.mem_filter]
    apply and_congr_right
    intro _
    rw [bne_iff_ne]
    exact ne_comm
  · have failed : ¬ t.Launches now label := by
      rintro ⟨_, _, task, -, -, called⟩
      rw [exchanges, launch] at called
      obtain log | ⟨other, e, -, log⟩ := log
      · rw [log, List.drop_length] at called
        cases called
      · rw [log, List.drop_left] at called
        cases List.mem_singleton.1 called
    rw [launch, (Placement.remembered_launch_of_declined declined).2]
    exact (and_iff_left failed).symm

/-- The labels after a turn are those before it that it does not strike. -/
theorem mem_unmatched_after {now : Instant} {t : Turn δ κ} {label : String} :
    label ∈ (t.after now).scheduler.unmatched ↔
      label ∈ t.met.scheduler.unmatched ∧ ¬ t.Strikes now label := by
  by_cases nobody : t.waiting = []
  · rw [after_of_waiting_eq_nil nobody]
    apply iff_of_false List.not_mem_nil
    rintro ⟨-, stays⟩
    exact stays (.inl nobody)
  · have strikes : t.Strikes now label ↔ t.Launches now label := or_iff_right nobody
    rw [strikes]
    cases tried : t.attempt? now with
    | none =>
        have idle : ¬ t.Launches now label := by
          rintro ⟨r, rest, task, attempt, -⟩
          cases tried.symm.trans attempt
        rw [after_of_passed_over nobody tried]
        exact (and_iff_left idle).symm
    | some taken =>
        obtain ⟨r, rest⟩ := taken
        exact mem_unmatched_of_attempt tried

end Turn

/-! ## What a batch leaves unmatched -/

theorem Placement.mem_unmatched_foldl_offer {now : Instant} {batch : List (Offer Float)}
    {p : Placement δ κ} {label : String} :
    label ∈ (batch.foldl (offer now) p).scheduler.unmatched ↔
      label ∈ p.scheduler.unmatched ∧ ∀ t ∈ p.turns now batch, ¬ t.Strikes now label := by
  induction batch generalizing p with
  | nil => simp [turns]
  | cons o rest ih =>
      have first : label ∈ (p.offer now o).scheduler.unmatched ↔
          label ∈ p.scheduler.unmatched ∧ ¬ (⟨p, o⟩ : Turn δ κ).Strikes now label :=
        Turn.mem_unmatched_after (t := ⟨p, o⟩)
      rw [List.foldl_cons, ih, first, turns, List.forall_mem_cons, and_assoc]

namespace Scheduler

omit [ClusterDriver δ] in
theorem mem_unmatched_noteUnmatched {s : Scheduler δ κ} {label : String} :
    label ∈ s.noteUnmatched.unmatched ↔ label ∈ s.requests.labels ∨ label ∈ s.unmatched := by
  have added (labels : List String) : label ∈ labels.foldr addLabel s.unmatched ↔
      label ∈ labels ∨ label ∈ s.unmatched := by
    induction labels with
    | nil => simp
    | cons first rest ih => rw [List.foldr_cons, mem_addLabel, ih, List.mem_cons, or_assoc]
  exact added s.requests.labels

/-- After a batch has been placed, the labels of those who still wait are noted, besides those that
were noted before and that no turn has struck. -/
theorem mem_unmatched_place {now : Instant} {s : Scheduler δ κ} {batch : List (Offer Float)}
    {label : String} :
    label ∈ (s.place now batch).scheduler.unmatched ↔
      label ∈ (s.place now batch).scheduler.requests.labels ∨
        label ∈ s.unmatched ∧ ∀ t ∈ s.turns now batch, ¬ t.Strikes now label := by
  have noted : label ∈ (s.place now batch).scheduler.unmatched ↔ _ :=
    mem_unmatched_noteUnmatched
  rw [noted, Placement.mem_unmatched_foldl_offer]
  rfl

/-! ## Actions -/

/-- The scheduler as it is when an action comes to place offers, and these offers. -/
def poised (s : Scheduler δ κ) : Action κ → Scheduler δ κ × List (Offer Float)
  | .place batch => (s, batch)
  | .turn _ =>
    if s.session.running then ({ s with buffer := s.buffer.drain.2 }, s.buffer.offers)
    else (s, [])
  | _ => (s, [])

/-- The action notes a label: it has placed offers, and a request of the label still waits. -/
def Notes (env : Surroundings) (s : Scheduler δ κ) (action : Action κ) (label : String) : Prop :=
  (s.poised action).2 ≠ [] ∧ label ∈ (s.perform env action).2.requests.labels

/-- The action strikes a label: it stops the session, or the label is struck in the turn of an offer
that it places. -/
def Strikes (env : Surroundings) (s : Scheduler δ κ) (action : Action κ) (label : String) : Prop :=
  s.generation < (s.perform env action).2.generation ∨
    ∃ t ∈ (s.poised action).1.turns env.now (s.poised action).2, t.Strikes env.now label

variable {env : Surroundings} {s : Scheduler δ κ} {action : Action κ} {label : String}

omit [ClusterDriver δ] in
theorem poised_turn_of_running (running : s.session.running = true) (generation : Nat) :
    s.poised (.turn generation) = ({ s with buffer := s.buffer.drain.2 }, s.buffer.offers) :=
  if_pos running

theorem perform_of_poised (some_ : (s.poised action).2 ≠ []) :
    (s.perform env action).2 =
      ((s.poised action).1.place env.now (s.poised action).2).scheduler := by
  cases action with
  | place batch =>
      have nonempty : ¬ batch.isEmpty = true := fun empty => some_ (List.isEmpty_iff.1 empty)
      rw [perform, if_neg nonempty]
      rfl
  | turn generation =>
      by_cases running : s.session.running = true
      · rw [poised_turn_of_running running] at some_ ⊢
        have nonempty : ¬ s.buffer.drain.1.isEmpty = true := fun empty =>
          some_ (List.isEmpty_iff.1 empty)
        simp only [perform, turn, if_pos running, if_neg nonempty]
        rfl
      · have none : s.poised (.turn generation) = (s, []) := if_neg running
        rw [none] at some_
        exact absurd rfl some_
  | _ => exact absurd rfl some_

/-- Minor actions leave alone what is remembered to place workers better. -/
theorem remembered_perform_of_isMinor (minor : action.isMinor = true) :
    (s.perform env action).2.affinity = s.affinity ∧
      (s.perform env action).2.unmatched = s.unmatched := by
  cases action with
  | enlist r =>
      simp only [perform, enlist]
      split
      · split <;> exact ⟨rfl, rfl⟩
      · exact ⟨rfl, rfl⟩
  | connect worker =>
      simp only [perform, connect]
      split
      · exact ⟨rfl, rfl⟩
      · split <;> exact ⟨rfl, rfl⟩
  | cancel worker =>
      simp only [perform, cancel]
      split
      · exact ⟨rfl, rfl⟩
      · split <;> exact ⟨rfl, rfl⟩
  | accept o =>
      simp only [perform, accept]
      split <;> exact ⟨rfl, rfl⟩
  | startLoop =>
      simp only [perform, ensureLoop]
      split <;> exact ⟨rfl, rfl⟩
  | review generation =>
      simp only [perform]
      split <;> exact ⟨rfl, rfl⟩
  | apply status =>
      simp only [perform, apply]
      split
      · exact ⟨rfl, rfl⟩
      · split <;> exact ⟨rfl, rfl⟩
  | withdraw | kill | drain | decline | rescind | assign | release | tell | answer =>
      exact ⟨rfl, rfl⟩
  | _ => cases minor

/-- The session has not been stopped and the labels are the same, or it has been stopped and they
are forgotten. -/
def KeepsLabels (s t : Scheduler δ κ) : Prop :=
  t.generation = s.generation ∧ t.unmatched = s.unmatched ∨
    s.generation < t.generation ∧ t.unmatched = []

theorem keepsLabels_supervise (nodes : Nat) (s : Scheduler δ κ) :
    s.KeepsLabels (OfferDispatch.supervise nodes s).2 := by
  have given : (s.giveUp nodes).generation = s.generation ∧
      (s.giveUp nodes).unmatched = s.unmatched := by
    rw [giveUp]
    split <;> exact ⟨rfl, rfl⟩
  rw [supervise_eq]
  split
  · split
    · refine .inr ⟨?_, rfl⟩
      show s.generation < (s.giveUp nodes).generation + 1
      rw [given.1]
      exact Nat.lt_succ_self _
    · exact .inl given
  · exact .inl ⟨rfl, rfl⟩

/-- An action that places no offers leaves the labels alone, unless it stops the session. -/
theorem keepsLabels_perform (none : (s.poised action).2 = []) :
    s.KeepsLabels (s.perform env action).2 := by
  by_cases minor : action.isMinor = true
  · exact .inl ⟨(minor_perform env s minor).generation, (remembered_perform_of_isMinor minor).2⟩
  cases action with
  | stop => exact .inr ⟨Nat.lt_succ_self _, rfl⟩
  | supervise | inspect => exact keepsLabels_supervise env.nodes s
  | place batch =>
      have empty : batch.isEmpty = true := List.isEmpty_iff.2 none
      rw [perform, if_pos empty]
      exact .inl ⟨rfl, rfl⟩
  | turn generation =>
      by_cases running : s.session.running = true
      · rw [poised_turn_of_running running] at none
        have empty : s.buffer.drain.1.isEmpty = true := List.isEmpty_iff.2 none
        simp only [perform, turn, if_pos running, if_pos empty]
        exact .inl ⟨rfl, rfl⟩
      · simp only [perform, turn, if_neg running]
        exact .inl ⟨rfl, rfl⟩
  | _ => exact absurd rfl minor

omit [ClusterDriver δ] in
theorem poised_frame (s : Scheduler δ κ) (action : Action κ) :
    (s.poised action).1.generation = s.generation ∧
      (s.poised action).1.unmatched = s.unmatched := by
  cases action with
  | turn generation =>
      rw [poised]
      split <;> exact ⟨rfl, rfl⟩
  | _ => exact ⟨rfl, rfl⟩

/-- The labels after an action are those that it notes, and those before it that it does not strike.
-/
theorem mem_unmatched_perform :
    label ∈ (s.perform env action).2.unmatched ↔
      s.Notes env action label ∨ label ∈ s.unmatched ∧ ¬ s.Strikes env action label := by
  obtain ⟨generation, unmatched⟩ := s.poised_frame action
  by_cases none : (s.poised action).2 = []
  · have silent : ¬ s.Notes env action label := fun notes => notes.1 none
    have stops : s.Strikes env action label ↔
        s.generation < (s.perform env action).2.generation := by
      apply or_iff_left
      rw [none, turns, arrangeByAffinity_nil, Placement.turns]
      rintro ⟨t, member, -⟩
      cases member
    rw [or_iff_right silent, stops]
    have keeps : s.KeepsLabels (s.perform env action).2 := keepsLabels_perform none
    obtain ⟨same, kept⟩ | ⟨stopped, forgotten⟩ := keeps
    · rw [kept, same]
      exact (and_iff_left (Nat.lt_irrefl _)).symm
    · rw [forgotten]
      exact iff_of_false List.not_mem_nil fun stays => stays.2 stopped
  · have goesOn : ¬ s.generation < (s.perform env action).2.generation := by
      rw [perform_of_poised none, (placed_place _ _ _).generation_eq, generation]
      exact Nat.lt_irrefl _
    have notes : s.Notes env action label ↔
        label ∈ (s.perform env action).2.requests.labels := and_iff_right none
    have strikes : s.Strikes env action label ↔
        ∃ t ∈ (s.poised action).1.turns env.now (s.poised action).2, t.Strikes env.now label :=
      or_iff_right goesOn
    rw [notes, strikes, perform_of_poised none, mem_unmatched_place, unmatched]
    push Not
    rfl

end Scheduler

/-! ## Whatever is done -/

structure Deed (κ : Type) where
  env : Surroundings
  action : Action κ

namespace Scheduler

def did (s : Scheduler δ κ) (d : Deed κ) : Scheduler δ κ := (s.perform d.env d.action).2

/-- What becomes of a scheduler with which one thing after another is done. -/
def acted (s : Scheduler δ κ) (deeds : List (Deed κ)) : Scheduler δ κ := deeds.foldl did s

theorem acted_concat (s : Scheduler δ κ) (deeds : List (Deed κ)) (d : Deed κ) :
    s.acted (deeds ++ [d]) = (s.acted deeds).did d := by
  rw [acted, List.foldl_append]
  rfl

/-- What every action keeps is kept, whatever is done and in whatever order. -/
theorem acted_preserves {P : Scheduler δ κ → Prop}
    (performed : ∀ env t action, P t → P (t.perform env action).2) {s : Scheduler δ κ}
    (deeds : List (Deed κ)) (h : P s) : P (s.acted deeds) :=
  List.foldlRecOn deeds did h fun t kept d _ => performed d.env t d.action kept

/-- The schedulers that come about through deeds are all that come about at all. -/
theorem arises_iff_exists_acted {settings : SchedulerSettings} {session : Session δ}
    {s : Scheduler δ κ} :
    s.Arises (fun _ => True) settings session ↔
      ∃ deeds : List (Deed κ), s = (new settings session).acted deeds := by
  constructor
  · intro h
    induction h with
    | new => exact ⟨[], rfl⟩
    | @act env _ action _ _ ih =>
        obtain ⟨deeds, rfl⟩ := ih
        refine ⟨deeds ++ [⟨env, action⟩], ?_⟩
        rw [acted_concat]
        rfl
  · rintro ⟨deeds, rfl⟩
    induction deeds using List.reverseRecOn with
    | nil => exact .new
    | append_singleton deeds d ih =>
        rw [acted_concat]
        exact ih.act d.env fun _ _ => trivial

/-- A label is listed: one of the deeds has noted it, and no later one has struck it. -/
def Listed (s : Scheduler δ κ) (deeds : List (Deed κ)) (label : String) : Prop :=
  Since did (fun t d => t.Notes d.env d.action label) (fun t d => ¬ t.Strikes d.env d.action label)
    s deeds

/-- The unmatched labels of a scheduler are those that are listed. -/
theorem mem_unmatched_acted {settings : SchedulerSettings} {session : Session δ}
    {deeds : List (Deed κ)} {label : String} :
    label ∈ ((new settings session).acted deeds).unmatched ↔
      (new settings session).Listed deeds label := by
  induction deeds using List.reverseRecOn with
  | nil => exact iff_of_false List.not_mem_nil not_since_nil
  | append_singleton deeds d ih =>
      have listed : (new settings session).Listed (deeds ++ [d]) label ↔
          (new settings session).Listed deeds label ∧
              ¬ ((new settings session).acted deeds).Strikes d.env d.action label ∨
            ((new settings session).acted deeds).Notes d.env d.action label := since_concat_iff
      rw [listed, ← ih, acted_concat, or_comm]
      exact mem_unmatched_perform

@[simp] theorem unmatched_declineAll (s : Scheduler δ κ) (declines : List (OfferId × Duration)) :
    (s.declineAll declines).unmatched = s.unmatched := by
  induction declines generalizing s with
  | nil => rfl
  | cons d rest ih => exact ih _

/-- The labels after a batch, once the offers that were left over have been declined. -/
theorem mem_unmatched_run_process {env : Surroundings} {s : Scheduler δ κ}
    {batch : List (Offer Float)} (some_ : batch ≠ []) {label : String} :
    label ∈ (s.run env (.process batch)).scheduler.unmatched ↔
      label ∈ (s.run env (.process batch)).scheduler.requests.labels ∨
        label ∈ s.unmatched ∧ ∀ t ∈ s.turns env.now batch, ¬ t.Strikes env.now label := by
  have placed : (s.run env (.process batch)).scheduler =
      (s.place env.now batch).scheduler.declineAll (s.place env.now batch).declines :=
    scheduler_step_place env 2 { scheduler := s } some_
  rw [(s.quiet_run_process env batch).requests, placed, unmatched_declineAll]
  exact mem_unmatched_place

/-- Whatever has been done before, in whatever order, the labels of those who still wait after a
batch are unmatched. No other label is exactly if each listed label of which nobody waits any more
has been struck in the batch. -/
theorem unmatched_all_wait_iff (settings : SchedulerSettings) (session : Session δ)
    (deeds : List (Deed κ)) (env : Surroundings) {batch : List (Offer Float)}
    (some_ : batch ≠ []) :
    let s := (new settings session).acted deeds
    let t := (s.run env (.process batch)).scheduler
    (∀ label ∈ t.requests.labels, label ∈ t.unmatched) ∧
      ((∀ label, label ∈ t.unmatched ↔ label ∈ t.requests.labels) ↔
        ∀ label, (new settings session).Listed deeds label → label ∉ t.requests.labels →
          ∃ turn ∈ s.turns env.now batch, turn.Strikes env.now label) := by
  intro s t
  have left (label : String) : label ∈ t.unmatched ↔ label ∈ t.requests.labels ∨
      (new settings session).Listed deeds label ∧
        ∀ turn ∈ s.turns env.now batch, ¬ turn.Strikes env.now label := by
    rw [← mem_unmatched_acted]
    exact mem_unmatched_run_process some_
  refine ⟨fun label waits => (left label).2 (.inl waits), ?_, ?_⟩
  · intro same label listed gone
    by_contra kept
    push Not at kept
    exact gone ((same label).1 ((left label).2 (.inr ⟨listed, kept⟩)))
  · intro struck label
    rw [left]
    apply or_iff_left_of_imp
    rintro ⟨listed, kept⟩
    by_contra gone
    obtain ⟨turn, member, strikes⟩ := struck label listed gone
    exact kept turn member strikes

end Scheduler

namespace Plain

/-- A worker with a label that is too large for a plain offer. -/
def large (name label : String) : WorkerSpec Float :=
  { worker name with label := label, cpus := 8.0 }

/-- A worker finds no offer and is cancelled, and then another one is requested. -/
def departure : List (Deed Unit) :=
  [⟨moment, .enlist ⟨large "v" "gone", ()⟩⟩, ⟨moment, .connect ⟨"v"⟩⟩, ⟨moment, .place [offer "o"]⟩,
    ⟨moment, .decline ⟨"o"⟩ shortDecline⟩, ⟨moment, .cancel ⟨"v"⟩⟩, ⟨moment, .supervise⟩,
    ⟨moment, .release⟩, ⟨moment, .enlist ⟨large "w" "waiting", ()⟩⟩, ⟨moment, .connect ⟨"w"⟩⟩]

def departed : Scheduler Recorder Unit := (Scheduler.new {} session).acted departure

/-- The label of the worker that was cancelled stays unmatched, though nobody of it waits. -/
theorem unmatched_all_wait_iff_departure :
    (departed.run moment (.process [offer "p"])).scheduler.unmatched = ["gone", "waiting"] ∧
      (departed.run moment (.process [offer "p"])).scheduler.requests.labels = ["waiting"] ∧
      ∃ label, (Scheduler.new {} session).Listed departure label ∧
        ∀ t ∈ departed.turns moment.now [offer "p"], ¬ t.Strikes moment.now label := by
  have unmatched : (departed.run moment (.process [offer "p"])).scheduler.unmatched =
      ["gone", "waiting"] := by
    decide +kernel
  have waiting : (departed.run moment (.process [offer "p"])).scheduler.requests.labels =
      ["waiting"] := by
    decide +kernel
  refine ⟨unmatched, waiting, ?_⟩
  have some_ : [offer "p"] ≠ [] := List.cons_ne_nil _ _
  obtain ⟨-, exactly⟩ :=
    Scheduler.unmatched_all_wait_iff {} session departure moment some_
  by_contra struck
  push Not at struck
  have same := (exactly.2 fun label listed _ => struck label listed) "gone"
  have gone : "gone" ∈ (departed.run moment (.process [offer "p"])).scheduler.requests.labels := by
    apply same.1
    show "gone" ∈ (departed.run moment (.process [offer "p"])).scheduler.unmatched
    rw [unmatched]
    decide
  rw [waiting] at gone
  exact absurd gone (by decide)

end Plain

end OfferDispatch
