import Mathlib.Data.List.Nodup
import OfferDispatch.Proofs.Lookup

/-!
# The life of a task

A tracker is told of launches and of statuses, and now and then all live tasks are given up or the
records of ended ones forgotten. In whatever order that happens, a task that is tracked comes
further or stays where it is until the first event that ends it. That event makes its record, and it
is the one event in which its host is told that the worker has ended. After it nothing about the
task changes any more, and every status of it is rejected, until the records are forgotten.

What a single event does is said for the task of one name; what a course of events does follows from
that by induction. All it takes is that no task is launched under a name that is live or on record.
-/

namespace OfferDispatch

variable {κ : Type}

/-! ## Events -/

inductive TrackerEvent (κ : Type)
  /-- A task that was launched is tracked. -/
  | insert (task : LiveTask κ)
  | status (status : TaskStatus)
  /-- All live tasks are given up. -/
  | clear
  /-- The records of ended tasks are forgotten. -/
  | forget

namespace TrackerEvent

/-- Does the event end a task that is live? -/
def ends (task : TaskId) : TrackerEvent κ → Bool
  | .status s => s.task == task && s.state.isTerminal
  | .clear => true
  | _ => false

/-- How a live task ends in the event. -/
def ending (l : LiveTask κ) : TrackerEvent κ → Ending
  | .status s => ⟨s.state, s.message⟩
  | _ => Tracker.lostEnding l

end TrackerEvent

def aboutTask (task : TaskId) (notices : List (Notice κ)) : List (Notice κ) :=
  notices.filter fun n => n.place.worker == task

namespace Tracker

/-- The tracker after an event. Nothing comes of a status for an unknown task. -/
def next (t : Tracker κ) : TrackerEvent κ → Tracker κ
  | .insert l => t.insert l
  | .status s => ((t.onStatus? s).map (·.tracker)).getD t
  | .clear => t.clear
  | .forget => t.clearRetired

/-- What hosts are to be told because of an event. -/
def notices (t : Tracker κ) : TrackerEvent κ → List (Notice κ)
  | .status s => ((t.onStatus? s).map (·.notices)).getD []
  | .clear => t.clearNotices
  | _ => []

/-- The tracker after one event has happened after another. -/
def course (t : Tracker κ) (events : List (TrackerEvent κ)) : Tracker κ := events.foldl next t

/-- What hosts are to be told because of one event after another. -/
def queued (t : Tracker κ) : List (TrackerEvent κ) → List (Notice κ)
  | [] => []
  | e :: rest => t.notices e ++ (t.next e).queued rest

/-- Does the event track no task under a name that is live or on record? -/
def Allows (t : Tracker κ) : TrackerEvent κ → Prop
  | .insert l => t.isKnown l.id = false
  | _ => True

/-- Is every event allowed at its time? -/
def Admits (t : Tracker κ) : List (TrackerEvent κ) → Prop
  | [] => True
  | e :: rest => t.Allows e ∧ (t.next e).Admits rest

instance (t : Tracker κ) : (e : TrackerEvent κ) → Decidable (t.Allows e)
  | .insert l => inferInstanceAs (Decidable (t.isKnown l.id = false))
  | .status _ | .clear | .forget => inferInstanceAs (Decidable True)

instance decidableAdmits :
    (t : Tracker κ) → (events : List (TrackerEvent κ)) → Decidable (t.Admits events)
  | _, [] => inferInstanceAs (Decidable True)
  | t, e :: rest =>
    have := decidableAdmits (t.next e) rest
    inferInstanceAs (Decidable (t.Allows e ∧ (t.next e).Admits rest))

variable {t : Tracker κ} {task : TaskId}

theorem course_append (t : Tracker κ) (earlier later : List (TrackerEvent κ)) :
    t.course (earlier ++ later) = (t.course earlier).course later :=
  List.foldl_append

theorem admits_append {earlier later : List (TrackerEvent κ)} :
    t.Admits (earlier ++ later) ↔ t.Admits earlier ∧ (t.course earlier).Admits later := by
  induction earlier generalizing t with
  | nil => exact (true_and _).symm ▸ Iff.rfl
  | cons e rest ih =>
      rw [List.cons_append, Admits, Admits, ih, and_assoc]
      exact Iff.rfl

/-! ## Statuses -/

/-- A status that is not rejected is for a live task, and does not move it back. -/
theorem onStatus?_cases (t : Tracker κ) (s : TaskStatus) :
    (t.next (.status s) = t ∧ t.notices (.status s) = []) ∨
    ∃ l, t.find? s.task = some l ∧ l.state.rank ≤ s.state.rank ∧
      t.next (.status s) = (t.advance l s).tracker ∧
      t.notices (.status s) = (t.advance l s).notices := by
  simp only [next, notices, onStatus?]
  cases found : t.find? s.task with
  | none => cases t.ending? s.task <;> exact .inl ⟨rfl, rfl⟩
  | some l =>
      by_cases back : s.state.rank < l.state.rank
      · simp only [if_pos back]
        exact .inl ⟨rfl, rfl⟩
      · simp only [if_neg back]
        exact .inr ⟨l, rfl, Nat.le_of_not_lt back, rfl, rfl⟩

/-- A status that ends no task replaces the live one by one that has come further, and its host is
told at most that the worker runs. -/
theorem advance_of_not_terminal (t : Tracker κ) (l : LiveTask κ) {s : TaskStatus}
    (goesOn : s.state.isTerminal = false) :
    ∃ announced, (t.advance l s).tracker =
        t.replace { l with state := s.state, announced := announced } ∧
      ∀ n ∈ (t.advance l s).notices, n = l.notice .running := by
  rw [advance, goesOn]
  split
  · next never => cases never
  split
  · exact ⟨true, rfl, by simp⟩
  · exact ⟨l.announced, rfl, by simp⟩

theorem advance_of_terminal (t : Tracker κ) (l : LiveTask κ) {s : TaskStatus}
    (last : s.state.isTerminal = true) :
    t.advance l s = ⟨.terminal s.state, [l.notice (endKind s.state)],
      t.retire l.id ⟨s.state, s.message⟩⟩ :=
  if_pos last

/-- A status that ends a live task is never rejected, as nothing is further than an end. -/
theorem onStatus?_of_terminal {l : LiveTask κ} {s : TaskStatus} (live : t.find? s.task = some l)
    (last : s.state.isTerminal = true) : t.onStatus? s = some (t.advance l s) := by
  have further : ¬ s.state.rank < l.state.rank := by
    rw [TaskState.isTerminal_iff_rank.1 last]
    exact Nat.not_lt.2 l.state.rank_le
  rw [onStatus?, live]
  exact if_neg further

/-- A status that is rejected, or for an unknown task, changes nothing. -/
theorem next_of_rejected {s : TaskStatus}
    (rejected : ∀ effect, t.onStatus? s = some effect → effect.outcome = .rejected) :
    t.next (.status s) = t ∧ t.notices (.status s) = [] := by
  obtain same | ⟨l, found, further, tracker, notices⟩ := t.onStatus?_cases s
  · exact same
  · have applied : t.onStatus? s = some (t.advance l s) := by
      simp [onStatus?, found, Nat.not_lt.2 further]
    have outcome := rejected _ applied
    rw [advance] at outcome
    split at outcome
    · cases outcome
    · split at outcome <;> cases outcome

/-! ## Trackers in order -/

/-- No two live tasks have the same name, and none is on record as ended. -/
structure Sound (t : Tracker κ) : Prop where
  distinct : (t.live.map (·.id)).Nodup
  apart : ∀ task, t.contains task = true → t.ending? task = none

theorem sound_empty : (empty : Tracker κ).Sound := ⟨List.nodup_nil, nofun⟩

theorem Sound.replace (h : t.Sound) {l : LiveTask κ} (live : t.contains l.id = true) :
    (t.replace l).Sound where
  distinct := by
    have same : (t.replace l).live.map (·.id) = t.live.map (·.id) := by
      rw [Tracker.replace, List.map_map]
      refine List.map_congr_left ?_
      intro x _
      by_cases own : x.id = l.id <;> simp [own]
    rw [same]
    exact h.distinct
  apart := by
    intro task found
    rw [← isSome_find?, find?_replace live] at found
    split at found
    · next same => exact h.apart task (same ▸ live)
    · rw [isSome_find?] at found
      exact h.apart task found

theorem Sound.retire (h : t.Sound) (ended : TaskId) (ending : Ending) :
    (t.retire ended ending).Sound where
  distinct := h.distinct.sublist (List.filter_sublist.map _)
  apart := by
    intro task live
    rw [← isSome_find?, find?_retire] at live
    rw [ending?_retire]
    split at live
    · cases live
    · next other =>
        rw [if_neg other]
        rw [isSome_find?] at live
        exact h.apart task live

theorem Sound.insert (h : t.Sound) {l : LiveTask κ} (new : t.isKnown l.id = false) :
    (t.insert l).Sound where
  distinct := by
    have absent : l.id ∉ t.live.map (·.id) := by
      rw [← contains_iff]
      exact Bool.eq_false_iff.1 (Bool.or_eq_false_iff.1 new).1
    rw [insert_eq absent, List.map_append]
    exact List.nodup_append'.2 ⟨h.distinct, List.nodup_singleton _, by simpa using absent⟩
  apart := by
    intro task live
    rw [← isSome_find?, find?_insert] at live
    split at live
    · next same =>
        have unrecorded : t.ending? l.id = none := by
          simpa using (Bool.or_eq_false_iff.1 new).2
        exact same ▸ unrecorded
    · rw [isSome_find?] at live
      exact h.apart task live

/-- Every event that is admitted leaves the tracker in order. -/
theorem Sound.next (h : t.Sound) {e : TrackerEvent κ}
    (new : t.Allows e) : (t.next e).Sound := by
  cases e with
  | insert l => exact h.insert new
  | clear => exact ⟨List.nodup_nil, nofun⟩
  | forget => exact ⟨h.distinct, fun _ _ => rfl⟩
  | status s =>
      obtain ⟨same, -⟩ | ⟨l, found, -, tracker, -⟩ := t.onStatus?_cases s
      · rw [same]
        exact h
      · have live : t.contains l.id = true := by
          rw [← isSome_find?, id_of_find? found, found]
          rfl
        rw [tracker]
        by_cases last : s.state.isTerminal = true
        · rw [advance_of_terminal t l last]
          exact h.retire l.id _
        · obtain ⟨announced, replaced, -⟩ :=
            t.advance_of_not_terminal l (Bool.eq_false_iff.2 last)
          rw [replaced]
          exact h.replace live

theorem Sound.course (h : t.Sound) {events : List (TrackerEvent κ)} (admitted : t.Admits events) :
    (t.course events).Sound := by
  induction events generalizing t with
  | nil => exact h
  | cons e rest ih => exact ih (h.next admitted.1) admitted.2

/-- A task that is on record as ended is not live, its state is the last one it had, and every
status of it is rejected. -/
theorem of_ending? (h : t.Sound) {ending : Ending} (ended : t.ending? task = some ending) :
    t.find? task = none ∧ t.state? task = some ending.state ∧
      ∀ s : TaskStatus, s.task = task → t.onStatus? s = some ⟨.rejected, [], t⟩ := by
  have gone : t.find? task = none := by
    rw [← Option.not_isSome_iff_eq_none, isSome_find?]
    intro live
    rw [h.apart task live] at ended
    cases ended
  refine ⟨gone, ?_, ?_⟩
  · rw [state?, gone, ended]
    rfl
  · rintro s rfl
    rw [onStatus?, gone, ended]
    rfl

/-! ## One event -/

theorem aboutTask_notice {l : LiveTask κ} (own : l.id = task) (kind : NoticeKind) :
    aboutTask task [l.notice kind] = [l.notice kind] := by
  simp [aboutTask, LiveTask.notice, own]

theorem aboutTask_eq_nil {l : LiveTask κ} (other : l.id ≠ task) {notices : List (Notice κ)}
    (all : ∀ n ∈ notices, n.place.worker = l.id) : aboutTask task notices = [] := by
  rw [aboutTask, List.filter_eq_nil_iff]
  intro n member
  simpa [all n member] using other

/-- A live task goes on in an event that does not end it: it has come no less far, and its host is
not told of an end. -/
theorem live_next {l : LiveTask κ} (live : t.find? task = some l) {e : TrackerEvent κ}
    (new : t.Allows e) (goesOn : e.ends task = false) :
    ∃ m, (t.next e).find? task = some m ∧ l.state.rank ≤ m.state.rank ∧
      ∀ n ∈ aboutTask task (t.notices e), n.kind.isEnd = false := by
  cases e with
  | clear => cases goesOn
  | forget => exact ⟨l, live, Nat.le_refl _, nofun⟩
  | insert x =>
      have other : x.id ≠ task := by
        rintro rfl
        have absent := (Bool.or_eq_false_iff.1 new).1
        rw [← isSome_find?, live] at absent
        cases absent
      refine ⟨l, ?_, Nat.le_refl _, nofun⟩
      rw [next, find?_insert, if_neg other, live]
  | status s =>
      obtain ⟨same, silent⟩ | ⟨x, found, further, tracker, notices⟩ := t.onStatus?_cases s
      · rw [same, silent]
        exact ⟨l, live, Nat.le_refl _, nofun⟩
      · have named := id_of_find? found
        rw [tracker, notices]
        by_cases last : s.state.isTerminal = true
        · -- The status ends a task, so it is one of another name.
          have other : x.id ≠ task := by
            rw [named]
            rintro rfl
            simp [TrackerEvent.ends, last] at goesOn
          rw [advance_of_terminal t x last, find?_retire, if_neg other,
            aboutTask_eq_nil other (by simp [LiveTask.notice])]
          exact ⟨l, live, Nat.le_refl _, nofun⟩
        · obtain ⟨announced, replaced, told⟩ :=
            t.advance_of_not_terminal x (Bool.eq_false_iff.2 last)
          have tracked : t.contains x.id = true := by
            rw [← isSome_find?, named, found]
            rfl
          rw [replaced, find?_replace (l := { x with state := s.state, announced := announced })
            tracked]
          have quiet : ∀ n ∈ aboutTask task (t.advance x s).notices, n.kind.isEnd = false := by
            intro n member
            rw [told n (List.mem_filter.1 member).1]
            rfl
          split
          · next own =>
              have here : x = l := by
                have same : s.task = task := named.symm.trans own
                rw [same, live] at found
                exact (Option.some.inj found).symm
              exact ⟨_, rfl, here ▸ further, quiet⟩
          · exact ⟨l, live, Nat.le_refl _, quiet⟩

/-- A live task ends in an event that ends it: it goes over into the records, and its host is told
once how it ended. -/
theorem dies_next (h : t.Sound) {l : LiveTask κ} (live : t.find? task = some l)
    {e : TrackerEvent κ} (last : e.ends task = true) :
    (t.next e).find? task = none ∧ (t.next e).ending? task = some (e.ending l) ∧
      aboutTask task (t.notices e) = [l.notice (endKind (e.ending l).state)] := by
  have own := id_of_find? live
  cases e with
  | insert | forget => cases last
  | clear =>
      obtain ⟨-, before, after, split⟩ := exists_of_find? live
      have nodup := h.distinct
      rw [split] at nodup
      obtain ⟨first, others⟩ := ne_of_nodup_names nodup
      rw [own] at first others
      refine ⟨rfl, ?_, ?_⟩
      · have latest : t.live.reverse.find? (fun x => x.id == task) = some l := by
          refine List.find?_eq_some_iff_append.2
            ⟨by simp [own], after.reverse, before.reverse, ?_, ?_⟩
          · simp [split]
          · intro x member
            simpa using others x (List.mem_reverse.1 member)
        rw [next, ending?_clear, latest]
        rfl
      · have only : t.live.filter (fun x => x.id == task) = [l] := by
          rw [split, List.filter_append, List.filter_cons_of_pos (by simp [own]),
            List.filter_eq_nil_iff.2 (by simpa using first),
            List.filter_eq_nil_iff.2 (by simpa using others), List.nil_append]
        rw [notices, clearNotices, aboutTask, List.filter_map]
        exact congrArg (List.map fun x => x.notice .failed) only
  | status s =>
      obtain ⟨same, terminal⟩ := Bool.and_eq_true_iff.1 last
      obtain rfl := beq_iff_eq.1 same
      simp only [next, notices, onStatus?_of_terminal live terminal,
        advance_of_terminal t l terminal, Option.map_some, Option.getD_some]
      refine ⟨?_, ?_, aboutTask_notice own _⟩
      · rw [find?_retire, if_pos own]
      · rw [ending?_retire, if_pos own]
        rfl

/-- Nothing changes about a task that is on record as ended, unless its record is forgotten. -/
theorem ended_next (h : t.Sound) {ending : Ending} (ended : t.ending? task = some ending)
    {e : TrackerEvent κ} (new : t.Allows e) (kept : e ≠ .forget) :
    (t.next e).ending? task = some ending ∧ aboutTask task (t.notices e) = [] := by
  have absent : ∀ x ∈ t.live, x.id ≠ task := by
    simpa [find?] using (of_ending? h ended).1
  cases e with
  | forget => exact absurd rfl kept
  | insert x => exact ⟨ended, rfl⟩
  | clear =>
      constructor
      · have none : t.live.reverse.find? (fun x => x.id == task) = none := by
          rw [List.find?_eq_none]
          intro x member
          simpa using absent x (List.mem_reverse.1 member)
        rw [next, ending?_clear, none, ended]
        rfl
      · rw [notices, clearNotices, aboutTask, List.filter_eq_nil_iff]
        intro n member
        obtain ⟨x, live, rfl⟩ := List.mem_map.1 member
        simpa [LiveTask.notice] using absent x live
  | status s =>
      obtain ⟨same, silent⟩ | ⟨x, found, -, tracker, told⟩ := t.onStatus?_cases s
      · rw [same, silent]
        exact ⟨ended, rfl⟩
      · obtain ⟨-, before, after, split⟩ := exists_of_find? found
        have other : x.id ≠ task := absent x (by simp [split])
        rw [tracker, told]
        by_cases last : s.state.isTerminal = true
        · rw [advance_of_terminal t x last, ending?_retire, if_neg other]
          exact ⟨ended, aboutTask_eq_nil other (by simp [LiveTask.notice])⟩
        · obtain ⟨announced, replaced, running⟩ :=
            t.advance_of_not_terminal x (Bool.eq_false_iff.2 last)
          rw [replaced]
          refine ⟨ended, aboutTask_eq_nil other ?_⟩
          intro n member
          rw [running n member]
          rfl

/-! ## A course of events -/

theorem aboutTask_append (first second : List (Notice κ)) :
    aboutTask task (first ++ second) = aboutTask task first ++ aboutTask task second :=
  List.filter_append ..

theorem live_course {l : LiveTask κ} (live : t.find? task = some l)
    {events : List (TrackerEvent κ)} (admitted : t.Admits events)
    (goesOn : ∀ e ∈ events, e.ends task = false) :
    ∃ m, (t.course events).find? task = some m ∧ l.state.rank ≤ m.state.rank ∧
      ∀ n ∈ aboutTask task (t.queued events), n.kind.isEnd = false := by
  induction events generalizing t l with
  | nil => exact ⟨l, live, Nat.le_refl _, nofun⟩
  | cons e rest ih =>
      obtain ⟨here, later⟩ := List.forall_mem_cons.1 goesOn
      obtain ⟨m, still, further, told⟩ := live_next live admitted.1 here
      obtain ⟨last, found, furthest, more⟩ := ih still admitted.2 later
      refine ⟨last, found, Nat.le_trans further furthest, ?_⟩
      rw [queued, aboutTask_append]
      exact List.forall_mem_append.2 ⟨told, more⟩

theorem ended_course (h : t.Sound) {ending : Ending} (ended : t.ending? task = some ending)
    {events : List (TrackerEvent κ)} (admitted : t.Admits events) (kept : .forget ∉ events) :
    (t.course events).ending? task = some ending ∧ aboutTask task (t.queued events) = [] := by
  induction events generalizing t with
  | nil => exact ⟨ended, rfl⟩
  | cons e rest ih =>
      have here : e ≠ .forget := fun same => kept (same ▸ List.mem_cons_self)
      obtain ⟨still, silent⟩ := ended_next h ended admitted.1 here
      obtain ⟨last, more⟩ := ih (h.next admitted.1) still admitted.2
        fun later => kept (List.mem_cons_of_mem _ later)
      refine ⟨last, ?_⟩
      rw [queued, aboutTask_append, silent, more, List.nil_append]

/-- The life of a task. Whatever has happened to a tracker before, a status is for an unknown task
exactly if its task is neither live nor on record, and one that is rejected or unknown changes
nothing. A live task never moves back, and its host is told of no end, until an event ends it; that
event takes it out of the live tasks, makes its record and has its host told once how it ended. From
then on nothing about it changes, nobody is told of it and all its statuses are rejected, until the
records are forgotten. -/
theorem task_lives_once {earlier later : List (TrackerEvent κ)}
    (admitted : (empty : Tracker κ).Admits (earlier ++ later)) (task : TaskId) :
    let t := (empty : Tracker κ).course earlier
    let u := (empty : Tracker κ).course (earlier ++ later)
    (∀ s : TaskStatus, t.onStatus? s = none ↔
      t.contains s.task = false ∧ t.ending? s.task = none) ∧
    (∀ s : TaskStatus, (∀ effect, t.onStatus? s = some effect → effect.outcome = .rejected) →
      t.next (.status s) = t ∧ t.notices (.status s) = []) ∧
    (∀ l, t.find? task = some l → (∀ e ∈ later, e.ends task = false) →
      ∃ m, u.find? task = some m ∧ l.state.rank ≤ m.state.rank ∧
        ∀ n ∈ aboutTask task (t.queued later), n.kind.isEnd = false) ∧
    (∀ l e, t.find? task = some l → e.ends task = true →
      (t.next e).contains task = false ∧ (t.next e).ending? task = some (e.ending l) ∧
        aboutTask task (t.notices e) = [l.notice (endKind (e.ending l).state)]) ∧
    (∀ ending, t.ending? task = some ending → .forget ∉ later →
      u.contains task = false ∧ u.ending? task = some ending ∧
        u.state? task = some ending.state ∧ aboutTask task (t.queued later) = [] ∧
        ∀ s : TaskStatus, s.task = task → u.onStatus? s = some ⟨.rejected, [], u⟩) := by
  intro t u
  obtain ⟨before, after⟩ := admits_append.1 admitted
  have sound : t.Sound := sound_empty.course before
  have split : u = t.course later := course_append _ earlier later
  refine ⟨?_, fun _ => next_of_rejected, ?_, ?_, ?_⟩
  · intro s
    rw [onStatus?_eq_none_iff, isKnown, Bool.or_eq_false_iff, Option.isSome_eq_false_iff,
      Option.isNone_iff_eq_none]
  · intro l live goesOn
    rw [split]
    exact live_course live after goesOn
  · intro l e live last
    obtain ⟨gone, recorded, told⟩ := dies_next sound live last
    rw [← isSome_find?, gone]
    exact ⟨rfl, recorded, told⟩
  · intro ending ended kept
    obtain ⟨still, silent⟩ := ended_course sound ended after kept
    rw [← split] at still
    obtain ⟨gone, last, rejected⟩ := of_ending? (split ▸ sound.course after) still
    rw [← isSome_find?, gone]
    exact ⟨rfl, still, last, silent, rejected⟩

end Tracker

namespace Plain

/-- A task is launched, runs and is killed. -/
def killing : List (TrackerEvent Unit) :=
  [.insert (.launched ⟨"o"⟩ ⟨"agent"⟩ ⟨worker "w", ()⟩), .status ⟨⟨"w"⟩, .running, none⟩,
    .status ⟨⟨"w"⟩, .killed, some "enough"⟩]

/-- A status of it comes late, and then all live tasks are given up. -/
def aftermath : List (TrackerEvent Unit) := [.status ⟨⟨"w"⟩, .staging, none⟩, .clear]

/-- The task stays killed, and its host is told nothing more. -/
theorem task_lives_once_killed :
    let t := (Tracker.empty : Tracker Unit).course killing
    let u := (Tracker.empty : Tracker Unit).course (killing ++ aftermath)
    t.ending? ⟨"w"⟩ = some ⟨.killed, some "enough"⟩ ∧
      u.ending? ⟨"w"⟩ = some ⟨.killed, some "enough"⟩ ∧
      aboutTask ⟨"w"⟩ (t.queued aftermath) = [] ∧
      u.onStatus? ⟨⟨"w"⟩, .finished, none⟩ = some ⟨.rejected, [], u⟩ := by
  have admitted : (Tracker.empty : Tracker Unit).Admits (killing ++ aftermath) := by decide
  have recorded : ((Tracker.empty : Tracker Unit).course killing).ending? ⟨"w"⟩ =
      some ⟨.killed, some "enough"⟩ := by decide
  obtain ⟨-, -, -, -, kept⟩ := Tracker.task_lives_once admitted ⟨"w"⟩
  obtain ⟨-, still, -, silent, rejected⟩ := kept _ recorded (by simp [aftermath])
  exact ⟨recorded, still, silent, rejected _ rfl⟩

end Plain

end OfferDispatch
