import OfferDispatch.Proofs.Lifecycle

/-!
# Tasks do not interfere

What a tracker holds of a task is the live task and the record found under its name. What comes of a
status depends on nothing but what is held of its own task, and changes nothing of what is held of
another. So of all statuses that arrive, only those addressed to a task matter to it: leave out the
others, and its statuses have the same outcomes, its host is told the same in the same order, and in
the end the same is held of it.

Two courses are compared by what their trackers hold of the task. The trackers go on to agree when a
status of the task arrives in both of them, and when one of another task arrives in a single one.
-/

namespace OfferDispatch

variable {κ : Type}

def addressed (task : TaskId) (statuses : List TaskStatus) : List TaskStatus :=
  statuses.filter fun s => s.task == task

namespace Tracker

/-- What comes of a status for its sender: its outcome, or nothing if the task is unknown. -/
def outcome? (t : Tracker κ) (s : TaskStatus) : Option StatusOutcome :=
  (t.onStatus? s).map (·.outcome)

/-- What comes of one status after another, each with the task it is for. -/
def outcomes (t : Tracker κ) : List TaskStatus → List (TaskId × Option StatusOutcome)
  | [] => []
  | s :: rest => (s.task, t.outcome? s) :: (t.next (.status s)).outcomes rest

structure AgreeOn (task : TaskId) (t u : Tracker κ) : Prop where
  live : t.find? task = u.find? task
  ending : t.ending? task = u.ending? task

variable {t u v : Tracker κ} {task : TaskId} {s : TaskStatus}

namespace AgreeOn

theorem refl (task : TaskId) (t : Tracker κ) : AgreeOn task t t := ⟨rfl, rfl⟩

theorem symm (h : AgreeOn task t u) : AgreeOn task u t := ⟨h.live.symm, h.ending.symm⟩

theorem trans (h : AgreeOn task t u) (k : AgreeOn task u v) : AgreeOn task t v :=
  ⟨h.live.trans k.live, h.ending.trans k.ending⟩

/-- A task that both trackers hold ends in both of them in the same way. -/
theorem retire (h : AgreeOn task t u) (ended : TaskId) (ending : Ending) :
    AgreeOn task (t.retire ended ending) (u.retire ended ending) where
  live := by rw [find?_retire, find?_retire, h.live]
  ending := by rw [ending?_retire, ending?_retire, h.ending]

theorem replace (h : AgreeOn task t u) {l : LiveTask κ} (here : t.contains l.id = true)
    (there : u.contains l.id = true) : AgreeOn task (t.replace l) (u.replace l) where
  live := by rw [find?_replace here, find?_replace there, h.live]
  ending := h.ending

/-- What a status does to a live task, it does in both trackers. -/
theorem advance (h : AgreeOn task t u) {l : LiveTask κ} (s : TaskStatus)
    (here : t.contains l.id = true) (there : u.contains l.id = true) :
    AgreeOn task (t.advance l s).tracker (u.advance l s).tracker ∧
      (t.advance l s).notices = (u.advance l s).notices ∧
      (t.advance l s).outcome = (u.advance l s).outcome := by
  simp only [Tracker.advance]
  split
  · exact ⟨h.retire l.id _, rfl, rfl⟩
  split
  · exact ⟨h.replace here there, rfl, rfl⟩
  · exact ⟨h.replace here there, rfl, rfl⟩

end AgreeOn

theorem contains_of_find? {l : LiveTask κ} (found : t.find? task = some l) :
    t.contains l.id = true := by
  rw [← isSome_find?, id_of_find? found, found]
  rfl

/-! ## One status -/

/-- Whatever is told because of a status is about its task. -/
theorem worker_of_mem_notices {n : Notice κ} (told : n ∈ t.notices (.status s)) :
    n.place.worker = s.task := by
  obtain ⟨-, silent⟩ | ⟨l, found, -, -, notices⟩ := t.onStatus?_cases s
  · rw [silent] at told
    cases told
  · rw [notices] at told
    have about : n.place.worker = l.id := by
      simp only [advance] at told
      split at told
      · rw [List.mem_singleton.1 told]
        rfl
      split at told
      · rw [List.mem_singleton.1 told]
        rfl
      · cases told
    exact about.trans (id_of_find? found)

/-- A status leaves everything as it is that is held of another task. -/
theorem agreeOn_next_of_ne (other : s.task ≠ task) : AgreeOn task (t.next (.status s)) t := by
  obtain ⟨same, -⟩ | ⟨l, found, -, tracker, -⟩ := t.onStatus?_cases s
  · rw [same]
    exact .refl task t
  · have apart : l.id ≠ task := id_of_find? found ▸ other
    rw [tracker]
    by_cases last : s.state.isTerminal = true
    · rw [advance_of_terminal t l last]
      exact ⟨(find?_retire ..).trans (if_neg apart), (ending?_retire ..).trans (if_neg apart)⟩
    · obtain ⟨announced, replaced, -⟩ :=
        t.advance_of_not_terminal l (Bool.eq_false_iff.2 last)
      have held : t.contains l.id = true := contains_of_find? found
      rw [replaced]
      exact ⟨(find?_replace (l := { l with state := s.state, announced := announced }) held
        task).trans (if_neg apart), rfl⟩

/-- What comes of a status, and what is held of its task afterwards, depends on what was held of
this task before. -/
theorem AgreeOn.next (h : AgreeOn s.task t u) :
    t.outcome? s = u.outcome? s ∧ t.notices (.status s) = u.notices (.status s) ∧
      AgreeOn s.task (t.next (.status s)) (u.next (.status s)) := by
  have there : u.find? s.task = t.find? s.task := h.live.symm
  have record : u.ending? s.task = t.ending? s.task := h.ending.symm
  simp only [outcome?, notices, Tracker.next, onStatus?, there, record]
  cases found : t.find? s.task with
  | none => cases t.ending? s.task <;> exact ⟨rfl, rfl, h⟩
  | some l =>
      by_cases back : s.state.rank < l.state.rank
      · simp only [if_pos back]
        exact ⟨rfl, rfl, h⟩
      · obtain ⟨after, told, outcome⟩ := h.advance s (contains_of_find? found)
          (contains_of_find? (there.trans found))
        simp only [if_neg back]
        exact ⟨congrArg some outcome, told, after⟩

/-- What comes of a status is the same before and after one of another task. -/
theorem outcome?_next_of_ne {r : TaskStatus} (other : r.task ≠ s.task) :
    (t.next (.status r)).outcome? s = t.outcome? s ∧
      (t.next (.status r)).notices (.status s) = t.notices (.status s) :=
  have ⟨outcome, told, _⟩ := (agreeOn_next_of_ne (t := t) other).next
  ⟨outcome, told⟩

/-- A status of another task makes no difference to what a later status leaves of a task. -/
theorem agreeOn_next_next_of_ne {r : TaskStatus} (other : r.task ≠ task) (s : TaskStatus) :
    AgreeOn task ((t.next (.status r)).next (.status s)) (t.next (.status s)) := by
  have before : AgreeOn task (t.next (.status r)) t := agreeOn_next_of_ne other
  by_cases own : s.task = task
  · subst own
    exact before.next.2.2
  · exact (agreeOn_next_of_ne own).trans (before.trans (agreeOn_next_of_ne own).symm)

/-- Two statuses of different tasks may arrive in either order. -/
theorem agreeOn_swap {r : TaskStatus} (other : r.task ≠ s.task) (task : TaskId) :
    AgreeOn task ((t.next (.status r)).next (.status s))
      ((t.next (.status s)).next (.status r)) := by
  by_cases own : r.task = task
  · have apart : s.task ≠ task := own ▸ other.symm
    exact (agreeOn_next_of_ne apart).trans (agreeOn_next_next_of_ne apart r).symm
  · exact (agreeOn_next_next_of_ne own s).trans (agreeOn_next_of_ne own).symm

/-! ## A course of statuses -/

/-- Of two trackers that agree on a task, let one be told everything and the other what is addressed
to the task. What comes of it for the task is the same. -/
theorem AgreeOn.course (h : AgreeOn task t u) (statuses : List TaskStatus) :
    (t.outcomes statuses).filter (fun o => o.1 == task) =
        u.outcomes (addressed task statuses) ∧
      aboutTask task (t.queued (statuses.map .status)) =
        u.queued ((addressed task statuses).map .status) ∧
      AgreeOn task (t.course (statuses.map .status))
        (u.course ((addressed task statuses).map .status)) := by
  induction statuses generalizing t u with
  | nil => exact ⟨rfl, rfl, h⟩
  | cons s rest ih =>
      by_cases own : s.task = task
      · subst own
        obtain ⟨outcome, told, after⟩ := h.next
        obtain ⟨outcomes, more, last⟩ := ih after
        have kept : addressed s.task (s :: rest) = s :: addressed s.task rest :=
          List.filter_cons_of_pos (by simp)
        have about : aboutTask s.task (t.notices (.status s)) = t.notices (.status s) := by
          rw [aboutTask, List.filter_eq_self]
          intro n member
          exact beq_iff_eq.2 (worker_of_mem_notices member)
        rw [kept]
        refine ⟨?_, ?_, last⟩
        · rw [Tracker.outcomes, Tracker.outcomes, List.filter_cons_of_pos (by simp), outcomes,
            outcome]
        · rw [List.map_cons, List.map_cons, queued, queued, aboutTask_append, about, told, more]
      · obtain ⟨outcomes, more, last⟩ := ih ((agreeOn_next_of_ne own).trans h)
        have left : addressed task (s :: rest) = addressed task rest :=
          List.filter_cons_of_neg (by simpa using own)
        have silent : aboutTask task (t.notices (.status s)) = [] := by
          rw [aboutTask, List.filter_eq_nil_iff]
          intro n member
          simpa [worker_of_mem_notices member] using own
        rw [left]
        refine ⟨?_, ?_, last⟩
        · rw [Tracker.outcomes, List.filter_cons_of_neg (by simpa using own), outcomes]
        · rw [List.map_cons, queued, aboutTask_append, silent, List.nil_append, more]

/-- Tasks do not interfere. Whatever a tracker holds and whichever statuses arrive, what comes of
them for a task is what comes of those addressed to it alone: the outcomes of its statuses, what its
host is told, in this order, and in the end the live task and the record under its name. Hence two
statuses of different tasks may arrive in either order: each has the same outcome, the same is told
because of it, and the same is held of every task afterwards. -/
theorem tasks_do_not_interfere (t : Tracker κ) :
    (∀ (statuses : List TaskStatus) (task : TaskId),
      let own := addressed task statuses
      (t.outcomes statuses).filter (fun o => o.1 == task) = t.outcomes own ∧
      aboutTask task (t.queued (statuses.map .status)) = t.queued (own.map .status) ∧
      (t.course (statuses.map .status)).find? task = (t.course (own.map .status)).find? task ∧
      (t.course (statuses.map .status)).ending? task =
        (t.course (own.map .status)).ending? task) ∧
    ∀ r s : TaskStatus, r.task ≠ s.task →
      t.outcome? r = (t.next (.status s)).outcome? r ∧
      t.outcome? s = (t.next (.status r)).outcome? s ∧
      t.notices (.status r) = (t.next (.status s)).notices (.status r) ∧
      t.notices (.status s) = (t.next (.status r)).notices (.status s) ∧
      ∀ task, AgreeOn task (t.course [.status r, .status s]) (t.course [.status s, .status r]) := by
  constructor
  · intro statuses task own
    obtain ⟨outcomes, told, last⟩ := (AgreeOn.refl task t).course statuses
    exact ⟨outcomes, told, last.live, last.ending⟩
  · intro r s other
    obtain ⟨outcome, told⟩ := outcome?_next_of_ne (t := t) other
    obtain ⟨outcome', told'⟩ := outcome?_next_of_ne (t := t) other.symm
    exact ⟨outcome'.symm, outcome.symm, told'.symm, told.symm, agreeOn_swap other⟩

end Tracker

namespace Plain

def pair : Tracker Unit :=
  (Tracker.empty : Tracker Unit).course
    [.insert (.launched ⟨"o"⟩ ⟨"agent"⟩ ⟨worker "v", ()⟩),
      .insert (.launched ⟨"p"⟩ ⟨"agent"⟩ ⟨worker "w", ()⟩)]

/-- One of them ends while the other begins to run, whichever comes first. -/
theorem tasks_do_not_interfere_pair :
    let ends : TaskStatus := ⟨⟨"v"⟩, .killed, none⟩
    let runs : TaskStatus := ⟨⟨"w"⟩, .running, none⟩
    ends.task ≠ runs.task ∧
      (pair.course [.status ends, .status runs]).ending? ⟨"v"⟩ =
        (pair.course [.status runs, .status ends]).ending? ⟨"v"⟩ ∧
      (pair.course [.status ends, .status runs]).ending? ⟨"v"⟩ = some ⟨.killed, none⟩ := by
  intro ends runs
  have other : ends.task ≠ runs.task := by decide
  obtain ⟨-, -, -, -, agree⟩ := (Tracker.tasks_do_not_interfere pair).2 ends runs other
  exact ⟨other, (agree ⟨"v"⟩).ending, by decide⟩

end Plain

end OfferDispatch
