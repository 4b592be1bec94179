import OfferDispatch.Proofs.Bookkeeping
import OfferDispatch.Proofs.Operations

/-!
# Forgotten tasks

When a session stops, the records of ended tasks are forgotten, though not the tasks that are still
live. A status that arrives late is let pass as long as no session runs. Once a new session runs,
nothing is left to tell such a task from one that was never launched.

So a task is unknown exactly if it has not been live since the session was last stopped. That is
less than that it was never launched.
-/

namespace OfferDispatch

variable {δ κ : Type}

namespace Tracker

variable {t : Tracker κ}

/-- Nothing comes of a status only if its task is not known. -/
theorem onStatus?_eq_none_iff {status : TaskStatus} :
    t.onStatus? status = none ↔ t.isKnown status.task = false := by
  have found : (t.find? status.task).isSome = t.contains status.task := List.isSome_find?
  rw [isKnown, ← found, onStatus?]
  cases t.find? status.task with
  | none => cases h : t.ending? status.task <;> simp
  | some task =>
      by_cases back : status.state.rank < task.state.rank <;> simp [back]

theorem mem_record {retired : List (TaskId × Ending)} {task other : TaskId} {ending : Ending}
    (h : other ∈ (record retired task ending).map (·.1)) :
    other = task ∨ other ∈ retired.map (·.1) := by
  rw [record, List.map_append, List.mem_append] at h
  obtain kept | new := h
  · exact .inr (List.filter_sublist.map _ |>.mem kept)
  · exact .inl (List.mem_singleton.1 new)

/-- Whoever is on record as ended after live tasks were given up was known before. -/
theorem isKnown_of_mem_clear {task : TaskId} (h : task ∈ t.clear.retired.map (·.1)) :
    t.isKnown task = true := by
  rw [isKnown_iff]
  have each (live : List (LiveTask κ)) (retired : List (TaskId × Ending))
      (h : task ∈ (live.foldl (fun retired l => record retired l.id (lostEnding l))
        retired).map (·.1)) : task ∈ live.map (·.id) ∨ task ∈ retired.map (·.1) := by
    induction live generalizing retired with
    | nil => exact .inr h
    | cons l rest ih =>
        obtain later | before := ih _ h
        · exact .inl (List.mem_cons_of_mem _ later)
        · obtain here | before := mem_record before
          · exact .inl (here ▸ List.mem_cons_self)
          · exact .inr before
  exact each t.live t.retired h

theorem isKnown_of_retire {task : TaskId} {l : LiveTask κ} (live : l.id ∈ t.live.map (·.id))
    {ending : Ending} (h : (t.retire l.id ending).isKnown task = true) : t.isKnown task = true := by
  rw [isKnown_iff] at h ⊢
  obtain goes_on | ended := h
  · exact .inl (List.filter_sublist.map _ |>.mem goes_on)
  · obtain here | before := mem_record ended
    · exact .inl (here ▸ live)
    · exact .inr before

theorem isKnown_of_replace {task : TaskId} {l : LiveTask κ} (live : l.id ∈ t.live.map (·.id))
    (h : (t.replace l).isKnown task = true) : t.isKnown task = true := by
  rw [isKnown_iff] at h ⊢
  obtain goes_on | ended := h
  · obtain ⟨x, member, rfl⟩ := List.mem_map.1 goes_on
    obtain ⟨y, before, rfl⟩ := List.mem_map.1 member
    left
    split
    · exact live
    · exact List.mem_map_of_mem before
  · exact .inr ended

/-- A status makes no task known. -/
theorem isKnown_of_onStatus? {status : TaskStatus} {effect : StatusEffect κ}
    (applied : t.onStatus? status = some effect) {task : TaskId}
    (h : effect.tracker.isKnown task = true) : t.isKnown task = true := by
  rw [onStatus?] at applied
  split at applied
  · next l found =>
      have live : l.id ∈ t.live.map (·.id) := by
        obtain ⟨-, before, after, split⟩ := exists_of_find? found
        simp [split]
      split at applied
      · cases applied
        exact h
      · cases applied
        rw [advance] at h
        split at h
        · exact isKnown_of_retire live h
        · split at h
          · exact isKnown_of_replace (l := { l with state := status.state, announced := true })
              live h
          · exact isKnown_of_replace (l := { l with state := status.state }) live h
  · obtain ⟨_, _, rfl⟩ := Option.map_eq_some_iff.1 applied
    exact h

end Tracker

variable [ClusterDriver δ]

namespace Placement

theorem retired_launch (p : Placement δ κ) (o : Offer Float) (r : Request κ)
    (rest : RequestQueue κ) :
    (p.launch o r rest).scheduler.tracker.retired = p.scheduler.tracker.retired := by
  obtain ⟨result, tracked, -, -⟩ | ⟨e, result, tracked, -, -⟩ :=
    p.scheduler.launcher.submit_cases p.scheduler.session.link o r
      (o.allocation p.scheduler.settings.role r.spec) p.scheduler.tracker
  · simp only [launch, result, tracked]
    rfl
  · simp only [launch, decline, result, tracked]

theorem retired_offer (now : Instant) (p : Placement δ κ) (o : Offer Float) :
    (p.offer now o).scheduler.tracker.retired = p.scheduler.tracker.retired := by
  simp only [offer]
  split
  · rfl
  split
  · split
    · exact retired_launch p o _ _
    · rfl
  · rfl

theorem retired_foldl_offer (now : Instant) (batch : List (Offer Float)) (p : Placement δ κ) :
    (batch.foldl (offer now) p).scheduler.tracker.retired = p.scheduler.tracker.retired := by
  induction batch generalizing p with
  | nil => rfl
  | cons o rest ih => rw [List.foldl_cons, ih, retired_offer]

end Placement

namespace Scheduler

/-- Whoever is on record as ended in `t` was known in `s`, and nothing was forgotten in between. -/
def Remembers (s t : Scheduler δ κ) : Prop :=
  ∀ task ∈ t.tracker.retired.map (·.1),
    t.generation = s.generation ∧ s.tracker.isKnown task = true

omit [ClusterDriver δ] in
theorem Remembers.of_eq {s t : Scheduler δ κ} (generation : t.generation = s.generation)
    (retired : t.tracker.retired = s.tracker.retired) : s.Remembers t := by
  intro task ended
  rw [retired] at ended
  exact ⟨generation, Tracker.isKnown_iff.2 (.inr ended)⟩

omit [ClusterDriver δ] in
theorem Remembers.of_quiet {s t u : Scheduler δ κ} (h : s.Remembers t) (quiet : Quiet t u) :
    s.Remembers u := by
  intro task ended
  rw [quiet.tracker] at ended
  rw [quiet.generation]
  exact h task ended

omit [ClusterDriver δ] in
theorem Remembers.after_quiet {s t u : Scheduler δ κ} (quiet : Quiet s t) (h : t.Remembers u) :
    s.Remembers u := by
  intro task ended
  obtain ⟨generation, known⟩ := h task ended
  rw [quiet.generation] at generation
  rw [quiet.tracker] at known
  exact ⟨generation, known⟩

theorem Remembers.stop (s t : Scheduler δ κ) : s.Remembers t.stop := nofun

theorem remembers_place (now : Instant) (s : Scheduler δ κ) (batch : List (Offer Float)) :
    s.Remembers (s.place now batch).scheduler :=
  .of_eq (placed_place now s batch).generation_eq
    (Placement.retired_foldl_offer now _ ⟨s, [], []⟩)

theorem remembers_supervise (nodes : Nat) (s : Scheduler δ κ) :
    s.Remembers (OfferDispatch.supervise nodes s).2 := by
  have given : s.Remembers (s.giveUp nodes) := by
    rw [giveUp]
    split
    · intro task ended
      exact ⟨rfl, Tracker.isKnown_of_mem_clear ended⟩
    · exact .of_eq rfl rfl
  rw [supervise_eq]
  split
  · split
    · exact .stop s _
    · exact given
  · exact .of_eq rfl rfl

/-- On the way to the end of an operation, ended tasks may be forgotten, but none comes up. -/
theorem remembers_wrapUp (env : Surroundings) (s : Scheduler δ κ) : s.Remembers (s.wrapUp env) := by
  rw [wrapUp]
  split
  · exact remembers_supervise env.nodes s
  · exact .of_eq rfl rfl

theorem unknownTask_iff_isKnown (env : Surroundings) (s : Scheduler δ κ) (status : TaskStatus)
    (task : TaskId) :
    (s.run env (.status status)).reply = some (.refused (.unknownTask task)) ↔
      task = status.task ∧ s.session.running = true ∧ s.tracker.isKnown task = false := by
  rw [reply_status]
  have strange : s.tracker.onStatus? status = none ↔ s.tracker.isKnown status.task = false :=
    Tracker.onStatus?_eq_none_iff
  cases applied : s.tracker.onStatus? status with
  | some effect =>
      rw [applied] at strange
      constructor
      · nofun
      · rintro ⟨rfl, -, none⟩
        cases strange.2 none
  | none =>
      have none := strange.1 applied
      by_cases running : s.session.running = true
      · simp only [if_pos running, Option.some.injEq, Reply.refused.injEq,
          SchedulerError.unknownTask.injEq]
        constructor
        · rintro rfl
          exact ⟨rfl, running, none⟩
        · rintro ⟨rfl, -, -⟩
          rfl
      · simp only [if_neg running]
        constructor
        · nofun
        · rintro ⟨-, runs, -⟩
          exact absurd runs running

/-- No operation brings up an ended task that was not known before. -/
theorem remembers_run (env : Surroundings) (s : Scheduler δ κ) (o : Operation κ) :
    s.Remembers (s.run env o).scheduler := by
  cases o with
  | request spec callback =>
      obtain ⟨e, -, same⟩ | ⟨r, -, -, -, written⟩ := s.request_cases env spec callback []
      · exact .of_eq (congrArg Ledger.generation same) (congrArg Ledger.retired same)
      · exact .of_eq (congrArg Ledger.generation written) (congrArg Ledger.retired written)
  | cancel worker =>
      rw [run_cancel]
      split
      · exact remembers_wrapUp env { s with session := (s.session.call (.kill worker)).2 }
      · split
        · next taken _ => exact remembers_wrapUp env { s with requests := taken.2 }
        · exact remembers_wrapUp env s
  | offers delivered =>
      by_cases multi : s.settings.multiThreaded = true
      · have nothing : s.Remembers s := .of_eq rfl rfl
        exact nothing.of_quiet (quiet_run_offers_of_multiThreaded env s delivered multi)
      · have placed := quiet_run_offers env s delivered (Bool.eq_false_iff.2 multi)
        have buffered : Quiet s { s.acceptAll delivered with
            buffer := (s.acceptAll delivered).buffer.drain.2 } :=
          (s.quiet_acceptAll delivered).trans ⟨rfl, rfl, rfl, rfl, rfl⟩
        exact (Remembers.after_quiet buffered (remembers_place env.now _ _)).of_quiet placed
  | process batch =>
      exact (remembers_place env.now s batch).of_quiet (quiet_run_process env s batch)
  | status status =>
      rw [run_status]
      split
      · next effect applied =>
          intro task ended
          obtain ⟨generation, known⟩ :=
            remembers_wrapUp env { s with tracker := effect.tracker } task ended
          exact ⟨generation, Tracker.isKnown_of_onStatus? applied known⟩
      · split
        · exact .of_eq rfl rfl
        · exact remembers_wrapUp env s
  | error | stop => exact .stop s s
  | supervise => exact remembers_supervise env.nodes s
  | turn generation =>
      refine Remembers.of_quiet ?_ (quiet_run_turn env s generation)
      split
      · exact remembers_place env.now { s with buffer := s.buffer.drain.2 } s.buffer.offers
      · exact .of_eq rfl rfl
  | rescind | registered | remark => exact .of_eq rfl rfl

end Scheduler

namespace History

/-- What happens later is a course of changes. -/
theorem becomes_append (settings : SchedulerSettings) (session : Session δ)
    (earlier later : List (Demand κ)) :
    ((Scheduler.new settings session).after earlier).ledger.Becomes
      ((Scheduler.new settings session).after (earlier ++ later)).ledger := by
  induction later using List.reverseRecOn with
  | nil =>
      rw [List.append_nil]
  | append_singleton later d ih =>
      rw [← List.append_assoc, Scheduler.after_concat]
      exact ih.trans (becomes_ask d (wellNamed_after settings session _))

omit [ClusterDriver δ] in
theorem isKnown_iff_mem_tasks {h : History δ κ} {task : TaskId} :
    h.scheduler.tracker.isKnown task = true ↔ task ∈ h.ledger.tasks := by
  rw [Tracker.isKnown_iff, Ledger.tasks, List.mem_append]
  exact Iff.rfl

/-- A task is known if it has been live since the records of ended tasks were last forgotten. -/
theorem isKnown_iff_live (settings : SchedulerSettings) (session : Session δ)
    (demands : List (Demand κ)) (task : TaskId) :
    ((Scheduler.new settings session).after demands).scheduler.tracker.isKnown task = true ↔
      ∃ earlier, earlier <+: demands ∧
        ((Scheduler.new settings session).after earlier).scheduler.generation =
          ((Scheduler.new settings session).after demands).scheduler.generation ∧
        ((Scheduler.new settings session).after earlier).scheduler.tracker.contains task =
          true := by
  constructor
  · induction demands using List.reverseRecOn with
    | nil => nofun
    | append_singleton demands d ih =>
        intro known
        obtain live | ended := Tracker.isKnown_iff.1 known
        · exact ⟨_, List.prefix_rfl, rfl, Tracker.contains_iff.2 live⟩
        · rw [Scheduler.after_concat] at ended ⊢
          obtain ⟨same, before⟩ := Scheduler.remembers_run d.env _ d.operation task ended
          obtain ⟨earlier, part, generation, live⟩ := ih before
          exact ⟨earlier, part.trans (List.prefix_append _ _), generation.trans same.symm, live⟩
  · rintro ⟨earlier, ⟨later, rfl⟩, generation, live⟩
    have wn := wellNamed_after settings session earlier
    obtain ⟨-, kept⟩ := (becomes_append settings session earlier later).launches wn
    obtain ⟨-, -, stays, -⟩ := kept generation.symm
    have here : task ∈ ((Scheduler.new settings session).after earlier).ledger.tasks :=
      List.mem_append_left _ (Tracker.contains_iff.1 live)
    exact isKnown_iff_mem_tasks.2 (stays task here)

/-- A status is refused as one of an unknown task exactly if the session runs and the task has not
been live since the session was last stopped; no launch of it has succeeded since then, though one
may have before. -/
theorem unknown_task_iff (settings : SchedulerSettings) (session : Session δ)
    (demands : List (Demand κ)) (env : Surroundings) (status : TaskStatus) (task : TaskId) :
    let past (part : List (Demand κ)) := (Scheduler.new settings session).after part
    let s := (past demands).scheduler
    ((s.run env (.status status)).reply = some (.refused (.unknownTask task)) ↔
      task = status.task ∧ s.session.running = true ∧
        ∀ earlier, earlier <+: demands → (past earlier).scheduler.generation = s.generation →
          (past earlier).scheduler.tracker.contains task = false) ∧
    ((s.run env (.status status)).reply = some (.refused (.unknownTask task)) →
      ∀ earlier, earlier <+: demands → (past earlier).scheduler.generation = s.generation →
        ∃ launches, s.launched = (past earlier).scheduler.launched ++ launches ∧
          task ∉ launches) := by
  intro past s
  have never : s.tracker.isKnown task = false ↔ ∀ earlier, earlier <+: demands →
      (past earlier).scheduler.generation = s.generation →
      (past earlier).scheduler.tracker.contains task = false := by
    rw [Bool.eq_false_iff, Ne, isKnown_iff_live settings session demands task]
    constructor
    · intro none earlier part generation
      rw [Bool.eq_false_iff]
      exact fun live => none ⟨earlier, part, generation, live⟩
    · rintro each ⟨earlier, part, generation, live⟩
      exact Bool.eq_false_iff.1 (each earlier part generation) live
  have refused := s.unknownTask_iff_isKnown env status task
  constructor
  · rw [refused, never]
  · rintro unknown earlier ⟨later, rfl⟩ generation
    obtain ⟨-, -, strange⟩ := refused.1 unknown
    have wn := wellNamed_after settings session earlier
    obtain ⟨-, kept⟩ := (becomes_append settings session earlier later).launches wn
    obtain ⟨launches, grown, -, -, recorded⟩ := kept generation.symm
    refine ⟨launches, grown, ?_⟩
    intro launch
    exact Bool.eq_false_iff.1 strange (isKnown_iff_mem_tasks.2 (recorded task launch).1)

end History

namespace Plain

/-- A task ends, the session stops, and a request for another worker starts it again. -/
def restarted : List (Demand Unit) :=
  [⟨moment, .request (worker "w") ()⟩, ⟨moment, .offers [offer "o"]⟩,
    ⟨moment, .status ⟨⟨"w"⟩, .finished, none⟩⟩, ⟨moment, .stop⟩,
    ⟨moment, .request (worker "v") ()⟩]

/-- A late status of the ended task is refused as one of an unknown task, though the task was
launched; it was so before the session was last stopped. -/
theorem unknown_task_iff_restarted :
    (((scheduler.after restarted).scheduler.run moment (.status ⟨⟨"w"⟩, .running, none⟩)).reply =
        some (.refused (.unknownTask ⟨"w"⟩))) ∧
      ⟨"w"⟩ ∈ (scheduler.after restarted).scheduler.launched ∧
      ∀ earlier, earlier <+: restarted →
        (scheduler.after earlier).scheduler.generation =
          (scheduler.after restarted).scheduler.generation →
        (scheduler.after earlier).scheduler.tracker.contains ⟨"w"⟩ = false := by
  have refused : ((scheduler.after restarted).scheduler.run moment
      (.status ⟨⟨"w"⟩, .running, none⟩)).reply = some (.refused (.unknownTask ⟨"w"⟩)) := by
    rw [Scheduler.unknownTask_iff_isKnown]
    exact ⟨rfl, by decide +kernel, by decide +kernel⟩
  obtain ⟨exact_, -⟩ := History.unknown_task_iff {} session restarted moment
    ⟨⟨"w"⟩, .running, none⟩ ⟨"w"⟩
  obtain ⟨-, -, never⟩ := exact_.1 refused
  exact ⟨refused, by decide +kernel, never⟩

end Plain

end OfferDispatch
