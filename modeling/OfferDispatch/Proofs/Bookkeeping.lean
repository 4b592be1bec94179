import OfferDispatch.Proofs.Ledger
import OfferDispatch.Proofs.Operations

/-!
# The scheduler keeps its ledger

Queue and tracker are searched by name, and a tracker overwrites what it has of a name. As long as
no name stands twice in the ledger, a search finds the one entry there is, and nothing is
overwritten: what is taken leaves exactly one place, and what is written is written at the end.

So each action amounts to moves of the ledger, those aside that take in a request or take it back.
-/

namespace OfferDispatch

variable {δ κ : Type}

/-! ## Queues and trackers -/

/-- A request that is taken from the queue leaves a gap, nothing else changes, and none before it
would have passed the test. -/
theorem RequestQueue.exists_earliest_of_take? {q rest : RequestQueue κ} {test : Request κ → Bool}
    {r : Request κ} (h : q.take? test = some (r, rest)) :
    ∃ before after, q.waiting = before ++ r :: after ∧ rest.waiting = before ++ after ∧
      test r = true ∧ ∀ x ∈ before, test x = false := by
  obtain ⟨found, rfl⟩ := RequestQueue.take?_eq_some_iff.1 h
  obtain ⟨fits, before, after, split, others⟩ := List.find?_eq_some_iff_append.1 found
  have failing : ∀ x ∈ before, test x = false := by
    intro x member
    simpa using others x member
  have absent : ∀ x ∈ before, ¬ test x = true := by
    intro x member
    exact Bool.eq_false_iff.1 (failing x member)
  refine ⟨before, after, split, ?_, fits, failing⟩
  simp only [split]
  rw [List.eraseP_append_right _ absent, List.eraseP_cons_of_pos fits]

/-- A request that is taken from the queue leaves a gap, and nothing else changes. -/
theorem RequestQueue.exists_of_take? {q rest : RequestQueue κ} {test : Request κ → Bool}
    {r : Request κ} (h : q.take? test = some (r, rest)) :
    ∃ before after, q.waiting = before ++ r :: after ∧ rest.waiting = before ++ after ∧
      test r = true := by
  obtain ⟨before, after, split, remaining, fits, -⟩ := exists_earliest_of_take? h
  exact ⟨before, after, split, remaining, fits⟩

/-- If no name stands twice, all entries of a name but one have other names. -/
theorem ne_of_nodup_names {α : Type} {name : α → TaskId} {before after : List α} {x : α}
    (nodup : ((before ++ x :: after).map name).Nodup) :
    (∀ y ∈ before, name y ≠ name x) ∧ ∀ y ∈ after, name y ≠ name x := by
  have only := (List.perm_middle.map name).nodup_iff.1 nodup
  rw [List.map_cons, List.nodup_cons, List.mem_map] at only
  constructor
  · intro y member same
    exact only.1 ⟨y, List.mem_append_left _ member, same⟩
  · intro y member same
    exact only.1 ⟨y, List.mem_append_right _ member, same⟩

namespace Tracker

variable {t : Tracker κ} {l : LiveTask κ} {before after : List (LiveTask κ)}

theorem exists_of_find? {task : TaskId} (h : t.find? task = some l) :
    l.id = task ∧ ∃ before after, t.live = before ++ l :: after := by
  obtain ⟨same, before, after, split, -⟩ := List.find?_eq_some_iff_append.1 h
  exact ⟨by simpa using same, before, after, split⟩

theorem replace_eq (at_ : t.live = before ++ l :: after) (nodup : (t.live.map (·.id)).Nodup)
    (new : LiveTask κ) (same : new.id = l.id) :
    t.replace new = { t with live := before ++ new :: after } := by
  rw [at_] at nodup
  obtain ⟨first, last⟩ := ne_of_nodup_names nodup
  have kept (part : List (LiveTask κ)) (others : ∀ x ∈ part, x.id ≠ l.id) :
      part.map (fun x => if x.id == l.id then new else x) = part := by
    refine (List.map_congr_left ?_).trans (List.map_id _)
    intro x member
    simp [others x member]
  rw [replace, same, at_, List.map_append, List.map_cons, kept before first, kept after last,
    if_pos (beq_self_eq_true l.id)]

theorem filter_live_eq (at_ : t.live = before ++ l :: after)
    (nodup : (t.live.map (·.id)).Nodup) :
    t.live.filter (fun x => x.id != l.id) = before ++ after := by
  rw [at_] at nodup ⊢
  obtain ⟨first, last⟩ := ne_of_nodup_names nodup
  have kept (part : List (LiveTask κ)) (others : ∀ x ∈ part, x.id ≠ l.id) :
      part.filter (fun x => x.id != l.id) = part := by
    rw [List.filter_eq_self]
    intro x member
    simpa using others x member
  simp [kept before first, kept after last]

/-- The end of a task that has no record is recorded last. -/
theorem record_eq {retired : List (TaskId × Ending)} {task : TaskId} (ending : Ending)
    (new : task ∉ retired.map (·.1)) :
    record retired task ending = retired ++ [(task, ending)] := by
  have kept : retired.filter (fun r => r.1 != task) = retired := by
    rw [List.filter_eq_self]
    rintro r member
    have other : r.1 ≠ task := fun same => new (same ▸ List.mem_map_of_mem member)
    simpa using other
  rw [record, kept]

/-- A task of a new name is tracked last, and nothing is overwritten. -/
theorem insert_eq (new : l.id ∉ t.live.map (·.id)) :
    t.insert l = { t with live := t.live ++ [l] } := by
  have kept : t.live.filter (fun x => x.id != l.id) = t.live := by
    rw [List.filter_eq_self]
    rintro x member
    have other : x.id ≠ l.id := fun same => new (same ▸ List.mem_map_of_mem member)
    simpa using other
  rw [insert, kept]

theorem contains_iff {task : TaskId} : t.contains task = true ↔ task ∈ t.live.map (·.id) := by
  simp [contains]

theorem isSome_ending?_iff {task : TaskId} :
    (t.ending? task).isSome = true ↔ task ∈ t.retired.map (·.1) := by
  rw [ending?, List.lookup_isSome_iff]
  simp

theorem isKnown_iff {task : TaskId} :
    t.isKnown task = true ↔ task ∈ t.live.map (·.id) ∨ task ∈ t.retired.map (·.1) := by
  rw [isKnown, Bool.or_eq_true, contains_iff, isSome_ending?_iff]

end Tracker

/-! ## Submitting -/

theorem Launcher.id_of_build {l : Launcher} {o : Offer Float} {w : WorkerSpec Float}
    {allocated : List UInt64} {task : Task Float} (h : l.build o w allocated = .ok task) :
    task.id = w.name := by
  rw [build] at h
  split at h
  · cases h
  · cases h
    rfl

/-- A request that is submitted is launched and tracked, or it fails and nothing is launched. -/
theorem Launcher.submit_cases [ClusterDriver δ] (l : Launcher) (link : Link δ) (o : Offer Float)
    (r : Request κ) (allocated : List UInt64) (tracker : Tracker κ) :
    ((l.submit link o r allocated tracker).result = .ok r.name ∧
      (l.submit link o r allocated tracker).tracker =
        tracker.insert (.launched o.id o.agent r) ∧
      (l.submit link o r allocated tracker).notices = [] ∧
      (l.submit link o r allocated tracker).link.launched = link.launched ++ [r.name]) ∨
    ∃ e, (l.submit link o r allocated tracker).result = .error e ∧
      (l.submit link o r allocated tracker).tracker = tracker ∧
      (l.submit link o r allocated tracker).notices = [r.failed] ∧
      (l.submit link o r allocated tracker).link.launched = link.launched := by
  cases built : l.build o r.spec allocated with
  | error fault =>
      right
      exact ⟨.invalidSpec r.name fault, by simp [submit, built]⟩
  | ok task =>
      have called := link.launches_call_launch o.id task
      have named : task.id = r.name := Launcher.id_of_build built
      cases answered : link.call (.launch o.id task) with
      | mk answer after =>
          rw [answered] at called
          cases answer with
          | ok done =>
              left
              simp [submit, built, answered, Link.launched, called, named]
          | error e =>
              right
              exact ⟨.driver e, by simp [submit, built, answered, Link.launched, called]⟩

/-! ## Actions as moves -/

namespace Scheduler

/-- What is on record about workers, where `created` are the notices that have come about. -/
def ledger (s : Scheduler δ κ) (created : List (Notice κ)) : Ledger κ where
  waiting := s.requests.waiting
  live := s.tracker.live
  retired := s.tracker.retired
  generation := s.generation
  created := created
  launched := s.launched

variable {s t : Scheduler δ κ} {created : List (Notice κ)}

theorem Quiet.ledger_eq (h : Quiet s t) : t.ledger created = s.ledger created := by
  simp only [ledger, h.requests, h.tracker, h.generation, launched_eq_of_launches h.launches]

/-- A name is taken if it stands in the ledger. -/
theorem isTaken_iff {worker : TaskId} :
    s.isTaken worker = true ↔ worker ∈ (s.ledger created).names := by
  simp only [isTaken, Bool.or_eq_true, Tracker.isKnown_iff, Ledger.names, Ledger.tasks, ledger,
    List.mem_append]
  rw [or_comm]
  simp [RequestQueue.contains, RequestQueue.isFor]

/-- A status comes to nothing for the ledger, or makes one move. -/
theorem leads_status {status : TaskStatus} {effect : StatusEffect κ}
    (h : s.tracker.onStatus? status = some effect) (wn : (s.ledger created).WellNamed) :
    (s.ledger created).Leads
      (({ s with tracker := effect.tracker } : Scheduler δ κ).ledger
        (created ++ effect.notices)) := by
  have nothing : (s.ledger created).Leads (s.ledger (created ++ [])) := by
    rw [List.append_nil]
  rw [Tracker.onStatus?] at h
  split at h
  · next task found =>
      obtain ⟨-, before, after, split⟩ := Tracker.exists_of_find? found
      have nodup : (s.tracker.live.map (·.id)).Nodup := wn.nodup_live
      split at h
      · cases h
        exact nothing
      · cases h
        rw [Tracker.advance]
        split
        · have unrecorded : task.id ∉ s.tracker.retired.map (·.1) :=
            wn.not_mem_retired (by simp [ledger, split])
          have last : (Tracker.endKind status.state).isEnd = true := by
            rw [Tracker.endKind]
            split <;> rfl
          simp only [Tracker.retire, Tracker.filter_live_eq split nodup,
            Tracker.record_eq _ unrecorded]
          exact .single (.finish _ last split)
        split
        · next first =>
            rw [Tracker.replace_eq split nodup
              { task with state := status.state, announced := true } rfl]
            exact .single (.announce status.state first.2 split)
        · rw [Tracker.replace_eq split nodup { task with state := status.state } rfl,
            List.append_nil]
          exact .single (.advance status.state split)
  · obtain ⟨_, _, rfl⟩ := Option.map_eq_some_iff.1 h
    exact nothing

/-- Giving up live tasks ends one after another. -/
theorem leads_clear (l : Ledger κ) (wn : l.WellNamed) :
    l.Leads { l with
      live := []
      retired := l.live.foldl (fun retired t => Tracker.record retired t.id (Tracker.lostEnding t))
        l.retired
      created := l.created ++ l.live.map (·.notice .failed) } := by
  obtain ⟨waiting, live, retired, generation, created, launched⟩ := l
  induction live generalizing retired created with
  | nil =>
      rw [List.foldl_nil, List.map_nil, List.append_nil]
  | cons task rest ih =>
      have first : Ledger.Move ⟨waiting, task :: rest, retired, generation, created, launched⟩
          ⟨waiting, rest, retired ++ [(task.id, Tracker.lostEnding task)], generation,
            created ++ [task.notice .failed], launched⟩ :=
        @Ledger.Move.finish _ ⟨waiting, task :: rest, retired, generation, created, launched⟩
          [] rest task .failed (Tracker.lostEnding task) rfl rfl
      have unrecorded : task.id ∉ retired.map (·.1) := wn.not_mem_retired List.mem_cons_self
      refine (Relation.ReflTransGen.single first).trans ?_
      have others := ih _ _ (wn.move first)
      rw [List.foldl_cons, Tracker.record_eq _ unrecorded, List.map_cons]
      rwa [List.append_assoc] at others

theorem leads_giveUp (nodes : Nat) (wn : (s.ledger created).WellNamed) :
    (s.ledger created).Leads ((s.giveUp nodes).ledger
      (created ++ (s.giveUp nodes).deferred.drop s.deferred.length)) := by
  rw [giveUp]
  split
  · rw [List.drop_left]
    exact leads_clear _ wn
  · rw [List.drop_length, List.append_nil]

variable [ClusterDriver δ]

/-- A request that is taken from the queue and submitted makes one move. -/
theorem move_launch {p : Placement δ κ} (o : Offer Float) {r : Request κ} {rest : RequestQueue κ}
    {test : Request κ → Bool} (taken : p.scheduler.requests.take? test = some (r, rest))
    (wn : (p.scheduler.ledger (created ++ p.notices)).WellNamed) :
    Ledger.Move (p.scheduler.ledger (created ++ p.notices))
      ((p.launch o r rest).scheduler.ledger (created ++ (p.launch o r rest).notices)) := by
  obtain ⟨before, after, split, remaining, -⟩ := RequestQueue.exists_of_take? taken
  have untracked : r.name ∉ p.scheduler.tracker.live.map (·.id) := by
    intro live
    exact wn.not_mem_tasks (by simp [ledger, split]) (List.mem_append_left _ live)
  obtain ⟨result, tracked, notices, launched⟩ | ⟨e, result, tracked, notices, launched⟩ :=
    p.scheduler.launcher.submit_cases p.scheduler.session.link o r
      (o.allocation p.scheduler.settings.role r.spec) p.scheduler.tracker
  · rw [Tracker.insert_eq untracked] at tracked
    simp only [Placement.launch, result, ledger, Scheduler.launched, launched, tracked, remaining]
    exact .launch o.id o.agent split
  · simp only [Placement.launch, Placement.decline, result, ledger, Scheduler.launched, launched,
      tracked, notices, remaining, ← List.append_assoc]
    exact .fail split

theorem leads_offer (now : Instant) {p : Placement δ κ} (o : Offer Float)
    (wn : (p.scheduler.ledger (created ++ p.notices)).WellNamed) :
    (p.scheduler.ledger (created ++ p.notices)).Leads
      ((p.offer now o).scheduler.ledger (created ++ (p.offer now o).notices)) := by
  simp only [Placement.offer]
  split
  · exact .refl
  split
  · split
    · next taken => exact .single (move_launch o taken wn)
    · exact .refl
  · exact .refl

theorem leads_foldl_offer (now : Instant) (batch : List (Offer Float)) {p : Placement δ κ}
    (wn : (p.scheduler.ledger (created ++ p.notices)).WellNamed) :
    (p.scheduler.ledger (created ++ p.notices)).Leads
      ((batch.foldl (Placement.offer now) p).scheduler.ledger
        (created ++ (batch.foldl (Placement.offer now) p).notices)) := by
  induction batch generalizing p with
  | nil => exact .refl
  | cons o rest ih =>
      have first := leads_offer now o wn
      exact first.trans (ih (wn.leads first))

theorem leads_place (now : Instant) (batch : List (Offer Float))
    (wn : (s.ledger created).WellNamed) :
    (s.ledger created).Leads
      ((s.place now batch).scheduler.ledger (created ++ (s.place now batch).notices)) := by
  have start : (s.ledger (created ++ [])).WellNamed := by rwa [List.append_nil]
  have placed := leads_foldl_offer (p := ⟨s, [], []⟩) now (arrangeByAffinity s.affinity batch) start
  simp only [List.append_nil] at placed
  exact placed

theorem leads_stop : (s.ledger created).Leads (s.stop.ledger created) := by
  have same : s.stop.launched = s.launched := launched_eq_of_launches (launches_stop s)
  have forgets : Ledger.Move (s.ledger created)
      ⟨s.requests.waiting, s.tracker.live, [], s.generation + 1, created, s.launched⟩ := .forget
  rw [← same] at forgets
  exact .single forgets

theorem leads_supervise (nodes : Nat) (wn : (s.ledger created).WellNamed) :
    (s.ledger created).Leads ((OfferDispatch.supervise nodes s).2.ledger
      (created ++ (OfferDispatch.supervise nodes s).2.deferred.drop s.deferred.length)) := by
  rw [supervise_eq]
  split
  · split
    · exact (leads_giveUp nodes wn).trans leads_stop
    · exact leads_giveUp nodes wn
  · rw [List.drop_length, List.append_nil]

/-- No notice comes about in a quiet action. -/
theorem created_of_isQuiet (env : Surroundings) (s : Scheduler δ κ) {action : Action κ}
    (quiet : action.isQuiet = true) : s.created env action = [] := by
  have other : action ≠ .release := by
    rintro rfl
    cases quiet
  rw [created_of_deferred other (quiet_perform env s quiet).deferred]
  cases action with
  | connect worker =>
      simp only [perform, connect]
      split
      · rfl
      · split <;> rfl
  | kill worker => simp [perform, kill]
  | drain => rfl
  | startLoop | accept | decline | rescind | assign | review | tell | answer => rfl
  | _ => cases quiet

/-- A quiet action makes no entry. -/
theorem ledger_perform_of_quiet (env : Surroundings) (s : Scheduler δ κ) {action : Action κ}
    (quiet : action.isQuiet = true) (created : List (Notice κ)) :
    (s.perform env action).2.ledger (created ++ s.created env action) = s.ledger created := by
  rw [created_of_isQuiet env s quiet, List.append_nil, (quiet_perform env s quiet).ledger_eq]

end Scheduler

/-- Does the action take in a request, or take it back? -/
def Action.isIntake : Action κ → Bool
  | .enlist _ | .connect _ | .withdraw .. => true
  | _ => false

namespace Scheduler

variable {s : Scheduler δ κ} {created : List (Notice κ)} [ClusterDriver δ]

theorem leads_cancel (env : Surroundings) (worker : TaskId) :
    (s.ledger created).Leads ((s.perform env (.cancel worker)).2.ledger
      (created ++ s.created env (.cancel worker))) := by
  have silent : tells [.kill worker] = ([] : List (Notice κ)) := rfl
  simp only [Scheduler.created, perform, cancel]
  split
  · rw [List.drop_length, silent, List.append_nil, List.append_nil]
  · split
    · next r rest taken =>
        obtain ⟨before, after, split, remaining, -⟩ := RequestQueue.exists_of_take? taken
        simp only [List.cons_append, tells_tell_cons, tells_append, tells_afterEnd,
          tells_answer_cons, tells_nil, List.drop_length, List.append_nil, ledger, remaining]
        exact .single (.fail split)
    · rw [List.drop_length, tells_append, tells_afterEnd, tells_answer_cons, tells_nil,
        List.append_nil, List.append_nil, List.append_nil]

theorem leads_placed (now : Instant) (batch : List (Offer Float))
    (wn : (s.ledger created).WellNamed) :
    (s.ledger created).Leads ((placed (s.place now batch)).2.ledger
      (created ++ (tells (placed (s.place now batch)).1 ++
        (placed (s.place now batch)).2.deferred.drop s.deferred.length))) := by
  have same : (placed (s.place now batch)).2.deferred = s.deferred :=
    (placed_place now s batch).deferred_eq
  rw [same, List.drop_length, List.append_nil, tells_placed]
  exact leads_place now batch wn

theorem leads_apply (env : Surroundings) (status : TaskStatus)
    (wn : (s.ledger created).WellNamed) :
    (s.ledger created).Leads ((s.perform env (.apply status)).2.ledger
      (created ++ s.created env (.apply status))) := by
  simp only [Scheduler.created, perform, apply]
  split
  · next effect h =>
      rw [List.drop_length, tells_append, tells_append, tells_map_tell, tells_afterEnd,
        tells_answer_cons, tells_nil, List.append_nil, List.append_nil, List.append_nil]
      exact leads_status h wn
  · split
    · rw [List.drop_length, tells_answer_cons, tells_nil, List.append_nil, List.append_nil]
    · rw [List.drop_length, tells_append, tells_afterEnd, tells_answer_cons, tells_nil,
        List.append_nil, List.append_nil, List.append_nil]

theorem leads_turn (env : Surroundings) (generation : Nat) (wn : (s.ledger created).WellNamed) :
    (s.ledger created).Leads ((s.perform env (.turn generation)).2.ledger
      (created ++ s.created env (.turn generation))) := by
  have silent : tells [.review generation] = ([] : List (Notice κ)) := rfl
  simp only [Scheduler.created, perform, turn]
  split
  · split
    · rw [List.drop_length, silent, List.append_nil, List.append_nil]
    · rw [tells_append, silent, List.append_nil]
      exact leads_placed (s := { s with buffer := s.buffer.drain.2 }) env.now s.buffer.drain.1 wn
  · simp only [endLoop, tells_nil, List.drop_length, List.append_nil]
    exact .refl

/-- Every action that is not about taking in a request amounts to moves. -/
theorem leads_perform (env : Surroundings) {action : Action κ} (other : action.isIntake = false)
    (wn : (s.ledger created).WellNamed) :
    (s.ledger created).Leads
      ((s.perform env action).2.ledger (created ++ s.created env action)) := by
  by_cases quiet : action.isQuiet = true
  · rw [ledger_perform_of_quiet env s quiet]
  cases action with
  | cancel worker => exact leads_cancel env worker
  | place batch =>
      simp only [Scheduler.created, perform]
      split
      · rw [tells_nil, List.drop_length, List.append_nil, List.append_nil]
      · exact leads_placed env.now batch wn
  | apply status => exact leads_apply env status wn
  | turn generation => exact leads_turn env generation wn
  | stop =>
      have kept : s.stop.deferred.drop s.deferred.length = [] := List.drop_length
      simp only [Scheduler.created, perform, tells_nil, kept, List.append_nil]
      exact leads_stop
  | supervise | inspect => exact leads_supervise env.nodes wn
  | release =>
      rw [Scheduler.created, List.append_nil]
      exact .refl
  | enlist | connect | withdraw => cases other
  | _ => exact (quiet rfl).elim

/-- Whatever the scheduler does, in whatever order, changes the ledger in the ways there are. -/
theorem becomes_perform (env : Surroundings) (action : Action κ)
    (wn : (s.ledger created).WellNamed) :
    (s.ledger created).Becomes
      ((s.perform env action).2.ledger (created ++ s.created env action)) := by
  by_cases intake : action.isIntake = true
  · cases action with
    | enlist r =>
        obtain ⟨e, h⟩ | ⟨free, h⟩ := s.enlist_cases r
        · simp only [Scheduler.created, perform, h, tells_answer_cons, tells_nil, List.drop_length,
            List.append_nil]
          exact .refl
        · have new : (⟨constrain s.settings r.spec, r.callback⟩ : Request κ).name ∉
              (s.ledger created).names := by
            rw [← isTaken_iff, Request.name, name_constrain]
            exact Bool.eq_false_iff.1 free
          have silent : tells [.connect r.name] = ([] : List (Notice κ)) := rfl
          simp only [Scheduler.created, perform, h, silent, List.drop_length, List.append_nil]
          exact .single (.enlist new)
    | connect worker =>
        rw [ledger_perform_of_quiet env s rfl]
    | withdraw worker e =>
        simp only [Scheduler.created, perform, tells_answer_cons, tells_nil, List.drop_length,
          List.append_nil]
        by_cases waits : ∃ r ∈ s.requests.waiting, RequestQueue.isFor worker r = true
        · obtain ⟨r, member, same⟩ := waits
          obtain ⟨x, before, after, -, -, split, remaining⟩ := List.exists_of_eraseP member same
          simp only [ledger, RequestQueue.waiting_erase, remaining]
          exact .single (.withdraw split)
        · have kept : s.requests.waiting.eraseP (RequestQueue.isFor worker) =
              s.requests.waiting := by
            apply List.eraseP_of_forall_not
            intro r member same
            exact waits ⟨r, member, same⟩
          simp only [ledger, RequestQueue.waiting_erase, kept]
          exact .refl
    | _ => cases intake
  · exact (leads_perform env (by simpa using intake) wn).becomes

/-! ## Operations as moves -/

/-- What follows from an action that is not about taking in a request is not about it either. -/
theorem isIntake_of_mem_perform (env : Surroundings) (s : Scheduler δ κ) (action : Action κ)
    (other : action.isIntake = false) :
    ∀ next ∈ (s.perform env action).1, next.isIntake = false := by
  have ended : ∀ next ∈ s.afterEnd, next.isIntake = false := by
    rw [afterEnd]
    split <;> simp [Action.isIntake]
  have answered (reply : Reply) :
      ∀ next ∈ s.afterEnd ++ [.answer reply], next.isIntake = false :=
    List.forall_mem_append.2 ⟨ended, by simp [Action.isIntake]⟩
  have left (p : Placement δ κ) : ∀ next ∈ (placed p).1, next.isIntake = false :=
    List.forall_mem_append.2 ⟨List.forall_mem_map.2 fun _ _ => rfl,
      List.forall_mem_map.2 fun _ _ => rfl⟩
  cases action with
  | enlist | connect | withdraw => cases other
  | cancel worker =>
      simp only [perform, cancel]
      split
      · simp [Action.isIntake]
      · split
        · exact List.forall_mem_cons.2 ⟨rfl, answered .done⟩
        · exact answered .done
  | kill worker => exact answered _
  | place batch =>
      simp only [perform]
      split
      · simp
      · exact left _
  | apply status =>
      simp only [perform, apply]
      split
      · rw [List.append_assoc]
        exact List.forall_mem_append.2 ⟨by simp [Action.isIntake], answered _⟩
      · split
        · simp [Action.isIntake]
        · exact answered _
  | turn generation =>
      simp only [perform, turn]
      split
      · split
        · simp [Action.isIntake]
        · exact List.forall_mem_append.2 ⟨left _, by simp [Action.isIntake]⟩
      · simp
  | _ => simp [perform, Action.isIntake]

end Scheduler

def Operation.isRequest : Operation κ → Bool
  | .request .. => true
  | _ => false

namespace Scheduler

variable {s : Scheduler δ κ} {created : List (Notice κ)} [ClusterDriver δ]

def ledgerAfter (env : Surroundings) (s : Scheduler δ κ) (o : Operation κ)
    (created : List (Notice κ)) : Ledger κ :=
  (s.run env o).scheduler.ledger (created ++ (s.chronicle env o).created)

/-- Every operation but a request amounts to moves. -/
theorem leads_run (env : Surroundings) {o : Operation κ}
    (other : o.isRequest = false) (wn : (s.ledger created).WellNamed) :
    (s.ledger created).Leads (s.ledgerAfter env o created) := by
  have agenda : ∀ action ∈ o.agenda s.settings, action.isIntake = false := by
    cases o with
    | request => cases other
    | offers delivered =>
        simp only [Operation.agenda, List.forall_mem_append]
        refine ⟨⟨⟨?_, ?_⟩, ?_⟩, ?_⟩
        · split <;> simp [Action.isIntake]
        · simp [Action.isIntake]
        · split <;> simp [Action.isIntake]
        · simp [Action.isIntake]
    | _ => simp [Operation.agenda, Action.isIntake]
  have performed : ∀ (t : Scheduler δ κ) (more : List (Notice κ)) (action : Action κ),
      action.isIntake = false → (s.ledger created).Leads (t.ledger (created ++ more)) →
      (s.ledger created).Leads
        ((t.perform env action).2.ledger (created ++ (more ++ t.created env action))) := by
    intro t more action ok before
    rw [← List.append_assoc]
    exact before.trans (leads_perform env ok (wn.leads before))
  have start : (s.ledger created).Leads (s.ledger (created ++ [])) := by
    rw [List.append_nil]
  have whole := Chronicle.foldl_step_preserves performed (isIntake_of_mem_perform env) depth
    agenda (c := { scheduler := s }) start
  rw [← chronicle, scheduler_chronicle] at whole
  exact whole

/-- If an operation tells nothing and defers nothing, no notice has come about. -/
theorem created_chronicle_eq_nil {env : Surroundings} {s : Scheduler δ κ} {o : Operation κ}
    (silent : (s.run env o).told = []) (same : (s.run env o).scheduler.deferred = s.deferred) :
    (s.chronicle env o).created = [] := by
  have balance := s.balances_chronicle env (fun _ => true) o
  rw [Chronicle.Balances, tells_agenda, told_chronicle, scheduler_chronicle, silent,
    same] at balance
  simp only [List.countP_nil, List.countP_true] at balance
  rw [← List.length_eq_zero_iff]
  omega

/-- A request is refused and leaves no trace, or it is written into the ledger under a new name. -/
theorem request_cases (env : Surroundings) (s : Scheduler δ κ) (spec : WorkerSpec Float)
    (callback : κ) (created : List (Notice κ)) :
    (∃ e, (s.run env (.request spec callback)).reply = some (.refused e) ∧
      s.ledgerAfter env (.request spec callback) created = s.ledger created) ∨
    ∃ r : Request κ, r.callback = callback ∧ r.name ∉ (s.ledger created).names ∧
      (s.run env (.request spec callback)).reply = some .done ∧
      s.ledgerAfter env (.request spec callback) created = (s.ledger created).enlist r := by
  obtain ⟨silent, ⟨e, reply, quiet⟩ | ⟨r, own, free, reply, quiet⟩⟩ :=
    s.quiet_run_request env spec callback
  · left
    refine ⟨e, reply, ?_⟩
    rw [ledgerAfter, created_chronicle_eq_nil silent quiet.deferred, List.append_nil]
    exact quiet.ledger_eq
  · right
    refine ⟨r, own, ?_, reply, ?_⟩
    · rw [← isTaken_iff]
      exact Bool.eq_false_iff.1 free
    · rw [ledgerAfter, created_chronicle_eq_nil silent quiet.deferred, List.append_nil]
      exact quiet.ledger_eq

/-- Every operation changes the ledger in the ways there are. -/
theorem becomes_run (env : Surroundings) (o : Operation κ) (wn : (s.ledger created).WellNamed) :
    (s.ledger created).Becomes (s.ledgerAfter env o created) := by
  cases o with
  | request spec callback =>
      obtain ⟨e, -, same⟩ | ⟨r, -, new, -, written⟩ := s.request_cases env spec callback created
      · rw [same]
      · rw [written]
        exact .single (.enlist new)
  | _ => exact (leads_run env rfl wn).becomes

omit [ClusterDriver δ] in
/-- A scheduler that has nothing to do has nothing on record. -/
theorem wellNamed_new (settings : SchedulerSettings) (session : Session δ)
    (created : List (Notice κ)) : ((new settings session).ledger created).WellNamed :=
  List.nodup_nil

end Scheduler

namespace History

variable [ClusterDriver δ]

def ledger (h : History δ κ) : Ledger κ := h.scheduler.ledger h.created

theorem becomes_ask {h : History δ κ} (d : Demand κ) (wn : h.ledger.WellNamed) :
    h.ledger.Becomes (h.ask d).ledger :=
  Scheduler.becomes_run d.env d.operation wn

theorem wellNamed_after (settings : SchedulerSettings) (session : Session δ)
    (demands : List (Demand κ)) :
    ((Scheduler.new settings session).after demands).ledger.WellNamed := by
  induction demands using List.reverseRecOn with
  | nil => exact Scheduler.wellNamed_new settings session []
  | append_singleton demands d ih =>
      rw [Scheduler.after_concat]
      exact ih.becomes (becomes_ask d ih)

end History

end OfferDispatch
