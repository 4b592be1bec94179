import OfferDispatch.Online.Watch
import OfferDispatch.Proofs.Calls
import OfferDispatch.Proofs.FirstFit
import OfferDispatch.Proofs.Lookup
import OfferDispatch.Proofs.Names

/-!
# The prospects of a worker

Who looks at a worker looks among the live tasks first, then into the queue and then at the records
of ended tasks. While looks are made the worker moves from one to another, and none of its moves
leads back: out of the queue it becomes live or is gone, a live task comes no less far or is gone,
and who is gone does not come again unless it is requested again. So looks find a worker pending,
then ready, then failed.

What single actions do is said by where they leave a worker: each live task afterwards was live
before and had come no further, or its worker waited; and nobody waits who has not waited before or
is requested. Both carry over to whole operations and from there to all that is ever done.
-/

namespace OfferDispatch

variable {δ κ : Type}

/-! ## Looks in order -/

namespace Readiness

/-- How far a worker has come. -/
def stage : Readiness → Nat
  | pending => 0
  | ready => 1
  | failed _ => 2

/-- The worker is found pending for some looks, then ready for some, and failed in all others. -/
def MovesForward (looks : List Readiness) : Prop :=
  ∃ (m n : Nat) (reasons : List String),
    looks = List.replicate m .pending ++ List.replicate n .ready ++ reasons.map .failed

theorem movesForward_of_pairwise {looks : List Readiness}
    (ordered : looks.Pairwise fun earlier later => earlier.stage ≤ later.stage) :
    MovesForward looks := by
  induction looks with
  | nil => exact ⟨0, 0, [], rfl⟩
  | cons first rest ih =>
      obtain ⟨before, others⟩ := List.pairwise_cons.1 ordered
      obtain ⟨m, n, reasons, rfl⟩ := ih others
      cases first with
      | pending => exact ⟨m + 1, n, reasons, rfl⟩
      | ready =>
          have none : m = 0 := by
            by_contra some
            have back := before .pending (by simp [some])
            exact absurd back (by decide)
          exact ⟨0, n + 1, reasons, by rw [none]; rfl⟩
      | failed reason =>
          have none : m = 0 := by
            by_contra some
            have back := before .pending (by simp [some])
            exact absurd back (Nat.not_succ_le_zero 1)
          have never : n = 0 := by
            by_contra some
            have back := before .ready (by simp [some])
            exact absurd back (Nat.not_succ_le_self 1)
          exact ⟨0, 0, reason :: reasons, by rw [none, never]; rfl⟩

end Readiness

/-! ## Where live tasks come from -/

namespace Scheduler

/-- Where a live task comes from: its worker has waited, or it has been live and come no further. It
has not ended unless it had before. -/
inductive Origin (s : Scheduler δ κ) (m : LiveTask κ) : Prop
  | waited (waits : m.id ∈ s.requests.names) (goesOn : m.state.isTerminal = false)
  | lived {l : LiveTask κ} (live : l ∈ s.tracker.live) (same : l.id = m.id)
      (further : l.state.rank ≤ m.state.rank)
      (goesOn : l.state.isTerminal = false → m.state.isTerminal = false)

variable {s t u : Scheduler δ κ}

theorem Origin.of_mem {m : LiveTask κ} (live : m ∈ s.tracker.live) : s.Origin m :=
  .lived live rfl (Nat.le_refl _) id

/-- A status leaves tasks that were live before or have come further by it. -/
theorem origin_of_onStatus? {status : TaskStatus} {effect : StatusEffect κ}
    (applied : s.tracker.onStatus? status = some effect) :
    ∀ m ∈ effect.tracker.live, s.Origin m := by
  rw [Tracker.onStatus?] at applied
  split at applied
  · next l found =>
      have live : l ∈ s.tracker.live := List.mem_of_find?_eq_some found
      split at applied
      · cases applied
        exact fun _ => .of_mem
      · next further =>
          cases applied
          have reached (announced : Bool) (goesOn : status.state.isTerminal = false) :
              ∀ m ∈ (s.tracker.replace
                { l with state := status.state, announced := announced }).live, s.Origin m := by
            intro m member
            obtain ⟨x, was, rfl⟩ := List.mem_map.1 member
            split
            · exact .lived live rfl (Nat.le_of_not_lt further) fun _ => goesOn
            · exact .of_mem was
          rw [Tracker.advance]
          split
          · exact fun m member => .of_mem (List.mem_filter.1 member).1
          · next goesOn =>
              split
              · exact reached true (Bool.eq_false_iff.2 goesOn)
              · exact reached l.announced (Bool.eq_false_iff.2 goesOn)
  · obtain ⟨_, _, rfl⟩ := Option.map_eq_some_iff.1 applied
    exact fun _ => .of_mem

theorem origin_giveUp (nodes : Nat) (s : Scheduler δ κ) :
    ∀ m ∈ (s.giveUp nodes).tracker.live, s.Origin m := by
  rw [giveUp]
  split
  · exact List.forall_mem_nil _
  · exact fun _ => .of_mem

/-! ## From one scheduler to another -/

/-- From `s` to `t`, the worker has not been requested, and no task has moved back. -/
structure Ages (worker : TaskId) (s t : Scheduler δ κ) : Prop where
  waiting : worker ∈ t.requests.names → worker ∈ s.requests.names
  live : ∀ m ∈ t.tracker.live, m.id = worker → s.Origin m

variable {worker : TaskId}

theorem Ages.refl (s : Scheduler δ κ) : Ages worker s s := ⟨id, fun _ live _ => .of_mem live⟩

theorem Ages.trans (first : Ages worker s t) (second : Ages worker t u) : Ages worker s u where
  waiting := first.waiting ∘ second.waiting
  live := by
    rintro m live rfl
    cases second.live m live rfl with
    | waited waits goesOn => exact .waited (first.waiting waits) goesOn
    | lived live same further goesOn =>
        cases first.live _ live same with
        | waited waits goesOn' => exact .waited (same ▸ waits) (goesOn goesOn')
        | lived live' same' further' goesOn' =>
            exact .lived live' (same'.trans same) (Nat.le_trans further' further)
              (goesOn ∘ goesOn')

variable [ClusterDriver δ]

/-! ## Placing -/

/-- A turn moves a worker from the queue to the live tasks, if it moves any. -/
theorem ages_turn (now : Instant) (t : Turn δ κ) :
    Ages worker t.met.scheduler (t.after now).scheduler where
  waiting := fun waits => ((t.waiting_after now).1.map Request.name).subset waits
  live := by
    rintro m live -
    cases t.does now with
    | leave link tracker | refuse _ _ _ _ tracker =>
        rw [tracker] at live
        exact .of_mem live
    | launch r rest tried task named answer link tracker =>
        rw [tracker] at live
        obtain before | new := List.mem_append.1 live
        · exact .of_mem (List.mem_filter.1 before).1
        · obtain rfl := List.mem_singleton.1 new
          obtain ⟨-, taken⟩ := Turn.attempt?_eq_some_iff.1 tried
          obtain ⟨before, after, split, -⟩ := RequestQueue.exists_of_take? taken
          have waited : r ∈ t.met.scheduler.requests.waiting := by simp [split]
          exact .waited (List.mem_map_of_mem waited) rfl

theorem ages_place (now : Instant) (s : Scheduler δ κ) (batch : List (Offer Float)) :
    Ages worker s (s.place now batch).scheduler := by
  have placed := Placement.rel_foldl_offer
    (R := fun p q : Placement δ κ => Ages worker p.scheduler q.scheduler)
    (fun p => .refl p.scheduler) .trans (ages_turn now) (arrangeByAffinity s.affinity batch)
    ⟨s, [], []⟩
  exact ⟨placed.waiting, placed.live⟩

end Scheduler

/-! ## Actions -/

/-- Is the worker requested in the action? -/
def Action.asksFor (worker : TaskId) : Action κ → Bool
  | .enlist r => r.name == worker
  | _ => false

def Operation.asksFor (worker : TaskId) : Operation κ → Bool
  | .request spec _ => spec.name == worker
  | _ => false

namespace Scheduler

variable {s t : Scheduler δ κ} {worker : TaskId}

theorem Ages.of_eq (requests : t.requests = s.requests) (live : t.tracker.live = s.tracker.live) :
    Ages worker s t where
  waiting := by
    rw [requests]
    exact id
  live := by
    rw [live]
    exact fun _ member _ => .of_mem member

variable [ClusterDriver δ]

theorem ages_supervise (nodes : Nat) (s : Scheduler δ κ) :
    Ages worker s (OfferDispatch.supervise nodes s).2 where
  waiting := by
    rw [requests_supervise]
    exact id
  live := by
    rintro m live -
    rw [supervise_eq] at live
    split at live
    · split at live
      · exact origin_giveUp nodes s m live
      · exact origin_giveUp nodes s m live
    · exact .of_mem live

/-- Every action but a request for the worker lets it age. -/
theorem ages_perform (env : Surroundings) (s : Scheduler δ κ) {action : Action κ}
    (spared : action.asksFor worker = false) : Ages worker s (s.perform env action).2 := by
  by_cases quiet : action.isQuiet = true
  · have same := s.quiet_perform env quiet
    exact .of_eq same.requests (congrArg Tracker.live same.tracker)
  cases action with
  | enlist r =>
      obtain ⟨e, refused⟩ | ⟨-, taken⟩ := s.enlist_cases r
      · rw [perform, refused]
        exact .refl s
      · rw [perform, taken]
        refine ⟨fun waits => ?_, fun _ live _ => .of_mem live⟩
        have other : worker ≠ r.spec.name := fun same => by
          simp [Action.asksFor, Request.name, same] at spared
        simpa [RequestQueue.names, Request.name, other] using waits
  | withdraw withdrawn e =>
      refine ⟨fun waits => ?_, fun _ live _ => .of_mem live⟩
      exact (List.eraseP_sublist.map Request.name).subset waits
  | cancel cancelled =>
      simp only [perform, cancel]
      split
      · exact .refl s
      · split
        · next r rest taken =>
            obtain ⟨before, after, split, remaining, -⟩ := RequestQueue.exists_of_take? taken
            refine ⟨fun waits => ?_, fun _ live _ => .of_mem live⟩
            simp only [RequestQueue.names, split, remaining] at waits ⊢
            exact ((List.sublist_cons_self r after).append_left before).map _ |>.subset waits
        · exact .refl s
  | place batch =>
      simp only [perform]
      split
      · exact .refl s
      · exact ages_place env.now s batch
  | turn generation =>
      simp only [perform, turn]
      split
      · split
        · exact .refl s
        · have drained : Ages worker s { s with buffer := s.buffer.drain.2 } := .of_eq rfl rfl
          exact drained.trans (ages_place env.now _ s.buffer.drain.1)
      · exact .of_eq rfl rfl
  | apply status =>
      simp only [perform, apply]
      split
      · next effect applied => exact ⟨id, fun m live _ => origin_of_onStatus? applied m live⟩
      · split <;> exact .refl s
  | supervise | inspect => exact ages_supervise env.nodes s
  | stop | release => exact .of_eq rfl rfl
  | _ => exact absurd rfl quiet

/-- What follows from an action is no request. -/
theorem asksFor_of_mem_perform {env : Surroundings} {action next : Action κ}
    (follows : next ∈ (s.perform env action).1) : next.asksFor worker = false := by
  have initial := isInitial_of_mem_perform follows
  cases next with
  | enlist => cases initial
  | _ => rfl

omit [ClusterDriver δ] in
theorem asksFor_of_mem_agenda {settings : SchedulerSettings} {o : Operation κ}
    (spared : o.asksFor worker = false) :
    ∀ action ∈ o.agenda settings, action.asksFor worker = false := by
  cases o with
  | request spec callback => exact List.forall_mem_singleton.2 spared
  | offers delivered =>
      refine List.forall_mem_append.2 ⟨List.forall_mem_append.2
        ⟨List.forall_mem_append.2 ⟨?_, List.forall_mem_map.2 fun _ _ => rfl⟩, ?_⟩,
        List.forall_mem_singleton.2 rfl⟩
      · split <;> simp [Action.asksFor]
      · split <;> simp [Action.asksFor]
  | _ => simp [Operation.agenda, Action.asksFor]

/-- Every operation but a request for the worker lets it age. -/
theorem ages_run (env : Surroundings) (s : Scheduler δ κ) {o : Operation κ}
    (spared : o.asksFor worker = false) : Ages worker s (s.run env o).scheduler :=
  run_preserves_of_allowed (P := Ages worker s)
    (fun t _ other aged => aged.trans (ages_perform env t other))
    (fun _ _ _ _ follows => asksFor_of_mem_perform follows) (asksFor_of_mem_agenda spared) (.refl s)

end Scheduler

/-! ## What a look shows -/

theorem RequestQueue.contains_iff {q : RequestQueue κ} {worker : TaskId} :
    q.contains worker = true ↔ worker ∈ q.names := by
  simp [contains, isFor, names]

namespace Scheduler

/-- Each name has one owner, and no live task has ended. -/
structure Tidy (s : Scheduler δ κ) : Prop where
  named : (s.ledger []).WellNamed
  goesOn : ∀ l ∈ s.tracker.live, l.state.isTerminal = false

variable {s t : Scheduler δ κ} {worker : TaskId}

/-- Nobody who waits is live. -/
theorem Tidy.find?_eq_none (h : s.Tidy) (waits : worker ∈ s.requests.names) :
    s.tracker.find? worker = none := by
  obtain ⟨r, member, rfl⟩ := List.mem_map.1 waits
  rw [← Option.not_isSome_iff_eq_none, Tracker.isSome_find?, Tracker.contains_iff]
  exact fun live => h.named.not_mem_tasks member (List.mem_append_left _ live)

theorem readiness_of_find? {l : LiveTask κ} (live : s.tracker.find? worker = some l) :
    s.readiness worker = if l.state = .running then .ready else .pending := by
  rw [readiness, live]

theorem Tidy.readiness_of_waits (h : s.Tidy) (waits : worker ∈ s.requests.names) :
    s.readiness worker = .pending := by
  rw [readiness, h.find?_eq_none waits]
  exact if_pos (RequestQueue.contains_iff.2 waits)

theorem readiness_eq_ready_iff :
    s.readiness worker = .ready ↔ ∃ l, s.tracker.find? worker = some l ∧ l.state = .running := by
  cases live : s.tracker.find? worker with
  | some l =>
      rw [readiness_of_find? live]
      by_cases running : l.state = .running <;> simp [running]
  | none =>
      simp only [readiness, live, reduceCtorEq, false_and, exists_false, iff_false]
      split
      · nofun
      · split <;> nofun

/-- A worker is found to have failed exactly if it is neither queued nor live. -/
theorem exists_readiness_eq_failed_iff :
    (∃ reason, s.readiness worker = .failed reason) ↔
      s.requests.contains worker = false ∧ s.tracker.contains worker = false := by
  rw [← Tracker.isSome_find?]
  cases live : s.tracker.find? worker with
  | some l =>
      rw [readiness_of_find? live]
      split <;> simp
  | none =>
      simp only [readiness, live, Option.isSome_none, and_true]
      cases s.requests.contains worker with
      | true => simp
      | false => cases s.tracker.ending? worker <;> simp

/-- A live task that does not run has not come so far. -/
theorem Tidy.readiness_eq_pending_iff (h : s.Tidy) :
    s.readiness worker = .pending ↔ s.requests.contains worker = true ∨
      ∃ l, s.tracker.find? worker = some l ∧ l.state.rank < TaskState.running.rank := by
  by_cases waits : s.requests.contains worker = true
  · exact iff_of_true (h.readiness_of_waits (RequestQueue.contains_iff.1 waits)) (.inl waits)
  rw [or_iff_right waits]
  cases live : s.tracker.find? worker with
  | some l =>
      have goesOn := h.goesOn l (List.mem_of_find?_eq_some live)
      rw [readiness_of_find? live]
      cases state : l.state <;> simp_all [TaskState.rank, TaskState.isTerminal]
  | none =>
      simp only [readiness, live, if_neg waits, reduceCtorEq, false_and, exists_false, iff_false]
      split <;> nofun

/-- Looks move forward while the worker ages. -/
theorem Tidy.stage_le (h : s.Tidy) (aged : Ages worker s t) :
    (s.readiness worker).stage ≤ (t.readiness worker).stage := by
  have pending : s.readiness worker = .pending →
      (s.readiness worker).stage ≤ (t.readiness worker).stage := by
    intro shown
    rw [shown]
    exact Nat.zero_le _
  cases live : t.tracker.find? worker with
  | some m =>
      have same : m.id = worker := Tracker.id_of_find? live
      cases aged.live m (List.mem_of_find?_eq_some live) same with
      | waited waits => exact pending (h.readiness_of_waits (same ▸ waits))
      | @lived l was own further goesOn =>
          have found : s.tracker.find? worker = some l :=
            (find?_eq_some_iff h.named).2 ⟨was, own.trans same⟩
          by_cases running : l.state = .running
          · -- A task that runs and has neither moved back nor ended still runs.
            have still : m.state = .running := by
              have open_ := goesOn (h.goesOn l was)
              rw [running] at further
              cases state : m.state <;> simp_all [TaskState.rank, TaskState.isTerminal]
            refine Nat.le_of_eq ?_
            rw [readiness_of_find? live, if_pos still, readiness_of_find? found, if_pos running]
          · exact pending (by rw [readiness_of_find? found, if_neg running])
  | none =>
      by_cases waits : worker ∈ t.requests.names
      · exact pending (h.readiness_of_waits (aged.waiting waits))
      · have gone : t.requests.contains worker = false ∧ t.tracker.contains worker = false := by
          rw [← Tracker.isSome_find?, live, Bool.eq_false_iff, ne_eq, RequestQueue.contains_iff]
          exact ⟨waits, rfl⟩
        obtain ⟨reason, shown⟩ := exists_readiness_eq_failed_iff.2 gone
        rw [shown]
        cases s.readiness worker <;> simp [Readiness.stage]

end Scheduler

/-! ## Whatever happens -/

/-- Something that is done with a scheduler: an operation from its beginning to its end, or a single
action of a caller who is in the middle of one. -/
inductive Happening (κ : Type)
  | operation (env : Surroundings) (o : Operation κ)
  | action (env : Surroundings) (a : Action κ)

def Happening.asksFor (worker : TaskId) : Happening κ → Bool
  | operation _ o => o.asksFor worker
  | action _ a => a.asksFor worker

namespace Scheduler

variable [ClusterDriver δ]

def undergo (s : Scheduler δ κ) : Happening κ → Scheduler δ κ
  | .operation env o => (s.run env o).scheduler
  | .action env a => (s.perform env a).2

/-- What a look shows at the beginning, and after each of what happens. -/
def looks (s : Scheduler δ κ) (worker : TaskId) : List (Happening κ) → List Readiness
  | [] => [s.readiness worker]
  | h :: rest => s.readiness worker :: (s.undergo h).looks worker rest

variable {s : Scheduler δ κ} {worker : TaskId}

theorem ages_undergo (s : Scheduler δ κ) {h : Happening κ} (spared : h.asksFor worker = false) :
    Ages worker s (s.undergo h) := by
  cases h with
  | operation env o => exact ages_run env s spared
  | action env a => exact ages_perform env s spared

/-- No action ends a live task and leaves it live. -/
theorem goesOn_perform (env : Surroundings) {s : Scheduler δ κ}
    (goesOn : ∀ l ∈ s.tracker.live, l.state.isTerminal = false) (action : Action κ) :
    ∀ m ∈ (s.perform env action).2.tracker.live, m.state.isTerminal = false := by
  intro m live
  by_cases spared : action.asksFor m.id = false
  · cases (ages_perform env s spared).live m live rfl with
    | waited _ goesOn' => exact goesOn'
    | lived was _ _ goesOn' => exact goesOn' (goesOn _ was)
  · -- A request leaves the tracker alone.
    cases action with
    | enlist r =>
        obtain ⟨e, refused⟩ | ⟨-, taken⟩ := s.enlist_cases r
        · rw [perform, refused] at live
          exact goesOn m live
        · rw [perform, taken] at live
          exact goesOn m live
    | _ => exact absurd rfl spared

theorem Tidy.undergo (tidy : s.Tidy) (h : Happening κ) : (s.undergo h).Tidy := by
  cases h with
  | operation env o =>
      have named := tidy.named.becomes (becomes_run env o tidy.named)
      exact ⟨named, run_preserves (P := fun t => ∀ l ∈ t.tracker.live, l.state.isTerminal = false)
        (fun t action goesOn => goesOn_perform env goesOn action) o tidy.goesOn⟩
  | action env a =>
      have named := tidy.named.becomes (becomes_perform env a tidy.named)
      exact ⟨named, goesOn_perform env tidy.goesOn a⟩

theorem tidy_foldl_undergo (settings : SchedulerSettings) (session : Session δ)
    (happenings : List (Happening κ)) :
    (happenings.foldl undergo (new settings session)).Tidy :=
  List.foldlRecOn happenings undergo ⟨wellNamed_new settings session [], List.forall_mem_nil _⟩
    fun _ tidy h _ => tidy.undergo h

/-- Whatever happens, a worker that is not requested is never again found to have come less far. -/
theorem Tidy.stage_le_of_mem_looks (tidy : s.Tidy) {happenings : List (Happening κ)}
    (spared : ∀ h ∈ happenings, h.asksFor worker = false) :
    ∀ look ∈ s.looks worker happenings, (s.readiness worker).stage ≤ look.stage := by
  induction happenings generalizing s with
  | nil => exact List.forall_mem_singleton.2 (Nat.le_refl _)
  | cons h rest ih =>
      obtain ⟨here, later⟩ := List.forall_mem_cons.1 spared
      have next := tidy.stage_le (ages_undergo s here)
      refine List.forall_mem_cons.2 ⟨Nat.le_refl _, fun look member => ?_⟩
      exact Nat.le_trans next (ih (tidy.undergo h) later look member)

theorem Tidy.pairwise_looks (tidy : s.Tidy) {happenings : List (Happening κ)}
    (spared : ∀ h ∈ happenings, h.asksFor worker = false) :
    (s.looks worker happenings).Pairwise fun earlier later => earlier.stage ≤ later.stage := by
  induction happenings generalizing s with
  | nil => exact List.pairwise_singleton _ _
  | cons h rest ih =>
      obtain ⟨-, later⟩ := List.forall_mem_cons.1 spared
      have all := tidy.stage_le_of_mem_looks spared
      exact List.pairwise_cons.2 ⟨(List.forall_mem_cons.1 all).2, ih (tidy.undergo h) later⟩

end Scheduler

/-! ## Waiting -/

/-- A wait that has begun does not end because nothing is known of the worker. -/
theorem result_waitFrom_ne_unknownTask (look : Nat → Look) (limit : Duration) (worker : TaskId)
    (fuel : Nat) (w : Watch) (index now : Nat) (seen : List Nat) :
    (waitFrom look limit fuel w index now seen).result ≠ .error (.unknownTask worker) := by
  induction fuel generalizing w index now seen with
  | zero => nofun
  | succ fuel ih =>
      simp only [waitFrom]
      split
      · split
        · split
          · nofun
          · nofun
          · exact ih _ _ _ _
        · nofun
      · nofun

theorem result_waitOnline_ne_unknownTask {look : Nat → Look} {interval limit : Duration}
    {worker : TaskId} : (waitOnline look interval limit).result ≠ .error (.unknownTask worker) :=
  result_waitFrom_ne_unknownTask look limit worker _ _ _ _ _

namespace Scheduler

variable {s : Scheduler δ κ} {worker : TaskId}

/-- To wait for a worker is refused exactly if it is neither queued, live nor on record as ended. -/
theorem await_eq_error_iff {now : Nat} {interval limit : Duration} :
    s.await now worker interval limit = .error (.unknownTask worker) ↔
      s.requests.contains worker = false ∧ s.tracker.contains worker = false ∧
        s.tracker.ending? worker = none := by
  have unknown : s.isAwaitable worker = false ↔ s.requests.contains worker = false ∧
      s.tracker.contains worker = false ∧ s.tracker.ending? worker = none := by
    rw [isAwaitable, Tracker.isSome_state?, Tracker.isKnown, Bool.or_eq_false_iff,
      Bool.or_eq_false_iff, Option.isSome_eq_false_iff, Option.isNone_iff_eq_none]
  rw [← unknown, await]
  cases s.isAwaitable worker <;> simp

variable [ClusterDriver δ]

/-- Whatever has happened to a scheduler and whatever happens then, as long as a worker is not
requested, one look after another first finds it pending, then ready and then failed, though it may
never find it one or the other. It is pending exactly while it is queued or its task is live and
does not run yet, ready exactly while its task is live and runs, and failed exactly when it is
neither queued nor live. To wait for it is refused at once, as nothing is known of it, exactly if
there is no record of its end either; a wait that has begun never ends for that reason. -/
theorem readiness_moves_forward (settings : SchedulerSettings) (session : Session δ)
    (worker : TaskId) (earlier later : List (Happening κ))
    (spared : ∀ h ∈ later, h.asksFor worker = false) :
    let s := earlier.foldl undergo (new settings session)
    Readiness.MovesForward (s.looks worker later) ∧
    (s.readiness worker = .pending ↔ s.requests.contains worker = true ∨
      ∃ l, s.tracker.find? worker = some l ∧ l.state.rank < TaskState.running.rank) ∧
    (s.readiness worker = .ready ↔
      ∃ l, s.tracker.find? worker = some l ∧ l.state = .running) ∧
    ((∃ reason, s.readiness worker = .failed reason) ↔
      s.requests.contains worker = false ∧ s.tracker.contains worker = false) ∧
    (∀ now interval limit, s.await now worker interval limit = .error (.unknownTask worker) ↔
      s.requests.contains worker = false ∧ s.tracker.contains worker = false ∧
        s.tracker.ending? worker = none) ∧
    ∀ look interval limit,
      (waitOnline look interval limit).result ≠ .error (.unknownTask worker) := by
  intro s
  have tidy : s.Tidy := tidy_foldl_undergo settings session earlier
  exact ⟨Readiness.movesForward_of_pairwise (tidy.pairwise_looks spared),
    tidy.readiness_eq_pending_iff, readiness_eq_ready_iff, exists_readiness_eq_failed_iff,
    fun _ _ _ => await_eq_error_iff, fun _ _ _ => result_waitOnline_ne_unknownTask⟩

end Scheduler

namespace Plain

def newcomer : List (Happening Unit) := [.operation moment (.request (worker "w") ())]

/-- Its task is launched, runs and finishes, and then the session is stopped. -/
def fulfilled : List (Happening Unit) :=
  [.operation moment (.offers [offer "o"]), .operation moment (.status ⟨⟨"w"⟩, .running, none⟩),
    .operation moment (.status ⟨⟨"w"⟩, .finished, none⟩), .action moment .stop]

/-- The worker is found pending twice, then ready once. After that it has failed, first because its
task has finished, then because nothing is known of it any more. -/
theorem readiness_moves_forward_fulfilled :
    let s := newcomer.foldl Scheduler.undergo (scheduler : Scheduler Recorder Unit)
    (∀ h ∈ fulfilled, h.asksFor ⟨"w"⟩ = false) ∧ Readiness.MovesForward (s.looks ⟨"w"⟩ fulfilled) ∧
      s.looks ⟨"w"⟩ fulfilled = [.pending, .pending, .ready,
        .failed "Agent w became TASK_FINISHED: ", .failed "Agent w is no longer known"] := by
  intro s
  have spared : ∀ h ∈ fulfilled, h.asksFor ⟨"w"⟩ = false := by decide
  obtain ⟨forward, -⟩ :=
    Scheduler.readiness_moves_forward {} session ⟨"w"⟩ newcomer fulfilled spared
  exact ⟨spared, forward, by decide +kernel⟩

end Plain

end OfferDispatch
