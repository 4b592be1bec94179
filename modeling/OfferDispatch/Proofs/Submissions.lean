import OfferDispatch.Proofs.Lookup
import OfferDispatch.Proofs.Ports

/-!
# Submitting is all or nothing

A request that has left the queue becomes a live task or fails, and it can fail before the cluster
is asked as well as because the cluster refuses. In either case its host is told once that the
worker has failed and nothing else has changed; and if the request becomes a task, that task is
tracked, nothing else has changed, and its host is told nothing yet.
-/

namespace OfferDispatch

variable {δ κ : Type}

/-! ## Workers that make no task -/

/-- Does the container of the worker name a program of its own, but a blank one? -/
def WorkerSpec.HasBlankShell (w : WorkerSpec Float) : Prop :=
  ∃ shell, w.container.bind (·.shell) = some shell ∧ Text.isBlankText shell = true

namespace Launcher

/-- The only workers that make no task are those with a blank program. -/
theorem build_eq_error_iff {l : Launcher} {o : Offer Float} {w : WorkerSpec Float}
    {allocated : List UInt64} {fault : SpecFault} :
    l.build o w allocated = .error fault ↔ fault = .blankShell ∧ w.HasBlankShell := by
  rw [build, command, WorkerSpec.HasBlankShell]
  cases w.container.bind (·.shell) with
  | none => simp
  | some shell =>
      by_cases blank : Text.isBlankText shell = true
      · simp only [if_pos blank]
        constructor
        · rintro ⟨⟩
          exact ⟨rfl, shell, rfl, blank⟩
        · rintro ⟨rfl, -⟩
          rfl
      · simp [blank]

end Launcher

/-! ## A new task among others -/

namespace Tracker

/-- A task is tracked in addition; what is known of all others is as before. -/
structure Gains (before after : Tracker κ) (task : LiveTask κ) : Prop where
  live : after.live = before.live ++ [task]
  retired : after.retired = before.retired
  found : after.find? task.id = some task
  others : ∀ other ≠ task.id, after.find? other = before.find? other

theorem gains_insert {t : Tracker κ} {task : LiveTask κ} (new : t.contains task.id = false) :
    t.Gains (t.insert task) task where
  live := by rw [insert_eq (mt contains_iff.2 (Bool.eq_false_iff.1 new))]
  retired := rfl
  found := by rw [find?_insert, if_pos rfl]
  others := fun other apart => by rw [find?_insert, if_neg apart.symm]

end Tracker

/-! ## Submitting -/

variable [ClusterDriver δ]

namespace Launcher

section

variable {l : Launcher} {link : Link δ} {o : Offer Float} {r : Request κ}
  {allocated : List UInt64} {tracker : Tracker κ} {task : Task Float}

theorem submit_of_not_built {fault : SpecFault} (built : l.build o r.spec allocated = .error fault) :
    l.submit link o r allocated tracker =
      ⟨.error (.invalidSpec r.name fault), link, tracker, [r.failed]⟩ := by
  rw [submit, built]

/-- A task that is built is submitted once, and what the cluster answers is the result. -/
theorem submit_of_built (built : l.build o r.spec allocated = .ok task) :
    (l.submit link o r allocated tracker).link = (link.call (.launch o.id task)).2 ∧
      (l.submit link o r allocated tracker).result =
        ((link.call (.launch o.id task)).1.mapError SchedulerError.driver).map fun _ => r.name := by
  cases answered : link.call (.launch o.id task) with
  | mk answer after =>
      simp only [submit, built, answered]
      cases answer with
      | ok => exact ⟨rfl, rfl⟩
      | error e => exact ⟨rfl, rfl⟩

/-- What is submitted successfully is tracked, and nothing is told of it yet. -/
theorem gains_of_submit {id : TaskId} (new : tracker.contains r.name = false)
    (accepted : (l.submit link o r allocated tracker).result = .ok id) :
    id = r.name ∧ (l.submit link o r allocated tracker).notices = [] ∧
      tracker.Gains (l.submit link o r allocated tracker).tracker (.launched o.id o.agent r) := by
  obtain ⟨result, tracked, silent, -⟩ | ⟨e, result, -⟩ :=
    l.submit_cases link o r allocated tracker
  · rw [result] at accepted
    cases accepted
    rw [tracked]
    exact ⟨rfl, silent, Tracker.gains_insert new⟩
  · rw [result] at accepted
    cases accepted

/-- What is not submitted successfully has failed, and is not tracked. -/
theorem failed_of_submit {e : SchedulerError}
    (failed : (l.submit link o r allocated tracker).result = .error e) :
    (l.submit link o r allocated tracker).tracker = tracker ∧
      (l.submit link o r allocated tracker).notices = [r.failed] := by
  obtain ⟨result, -⟩ | ⟨_, -, kept, told, -⟩ := l.submit_cases link o r allocated tracker
  · rw [result] at failed
    cases failed
  · exact ⟨kept, told⟩

end

/-- While a batch is placed, what the host of a request is to be told is added to what others are.
-/
theorem notices_launch (p : Placement δ κ) (o : Offer Float) (r : Request κ)
    (rest : RequestQueue κ) :
    (p.launch o r rest).notices =
      p.notices ++ (p.scheduler.launcher.submit p.scheduler.session.link o r
        (o.allocation p.scheduler.settings.role r.spec) p.scheduler.tracker).notices := by
  rw [Placement.launch]
  obtain ⟨result, -, silent, -⟩ | ⟨e, result, -⟩ :=
    p.scheduler.launcher.submit_cases p.scheduler.session.link o r
      (o.allocation p.scheduler.settings.role r.spec) p.scheduler.tracker
  · simp only [result, silent, List.append_nil]
  · simp only [result, Placement.decline]

/-- To submit a request on an offer, under a name that no live task has, is all or nothing. A task
that cannot be built, for a blank program and for nothing else, is never submitted, and one that
can be built is submitted once. If the cluster takes it, it is tracked in addition to what was
tracked before, and nothing is told. Otherwise what is tracked is as before, and the host is told
once that its worker has failed without having reached an agent. While a batch is placed, what is
told comes after what has been told before. -/
theorem submission_is_atomic (l : Launcher) (link : Link δ) (o : Offer Float) (r : Request κ)
    (allocated : List UInt64) (tracker : Tracker κ) (new : tracker.contains r.name = false) :
    let submitted := l.submit link o r allocated tracker
    (∀ fault, l.build o r.spec allocated = .error fault →
      fault = .blankShell ∧ r.spec.HasBlankShell ∧ submitted.link = link ∧
        submitted.result = .error (.invalidSpec r.name fault)) ∧
    (∀ task, l.build o r.spec allocated = .ok task →
      ¬ r.spec.HasBlankShell ∧ ∃ answer,
        submitted.link.log = link.log ++ [.call (.launch o.id task) answer] ∧
        submitted.result = (answer.mapError SchedulerError.driver).map fun _ => r.name) ∧
    (∀ id, submitted.result = .ok id → id = r.name ∧ submitted.notices = [] ∧
      tracker.Gains submitted.tracker ⟨o.id, o.agent, r, .staging, false⟩) ∧
    (∀ e, submitted.result = .error e → submitted.tracker = tracker ∧
      submitted.notices = [⟨.failed, ⟨r.name, none⟩, r.callback⟩]) ∧
    ∀ (p : Placement δ κ) (rest : RequestQueue κ),
      p.scheduler.launcher.submit p.scheduler.session.link o r
          (o.allocation p.scheduler.settings.role r.spec) p.scheduler.tracker = submitted →
        (p.launch o r rest).notices = p.notices ++ submitted.notices := by
  intro submitted
  refine ⟨?_, ?_, fun _ => gains_of_submit new, fun _ => failed_of_submit, ?_⟩
  · intro fault built
    obtain ⟨blank, unnamed⟩ := build_eq_error_iff.1 built
    have failed : submitted = _ := submit_of_not_built built
    rw [failed]
    exact ⟨blank, unnamed, rfl, rfl⟩
  · intro task built
    obtain ⟨called, result⟩ : submitted.link = _ ∧ submitted.result = _ := submit_of_built built
    refine ⟨?_, _, called ▸ link.log_call _, result⟩
    intro unnamed
    rw [build_eq_error_iff.2 ⟨rfl, unnamed⟩] at built
    cases built
  · intro p rest same
    rw [notices_launch, same]

end Launcher

namespace Plain

def occupied : Tracker Unit := Tracker.empty.insert (.launched ⟨"p"⟩ ⟨"agent"⟩ ⟨worker "v", ()⟩)

/-- A second worker is tracked besides it. -/
theorem submission_is_atomic_second :
    let submitted := launcher.submit session.link (offer "o") ⟨worker "w", ()⟩ [] occupied
    submitted.result = .ok ⟨"w"⟩ ∧ submitted.notices = [] ∧
      submitted.tracker.live.map (·.id) = [⟨"v"⟩, ⟨"w"⟩] ∧
      submitted.tracker.find? ⟨"v"⟩ = occupied.find? ⟨"v"⟩ := by
  intro submitted
  have new : occupied.contains ⟨"w"⟩ = false := by decide
  obtain ⟨-, -, accepted, -⟩ := Launcher.submission_is_atomic launcher session.link (offer "o")
    ⟨worker "w", ()⟩ [] occupied new
  have result : submitted.result = .ok ⟨"w"⟩ := rfl
  obtain ⟨-, silent, gains⟩ := accepted _ result
  refine ⟨result, silent, ?_, gains.others ⟨"v"⟩ (by decide)⟩
  have live : submitted.tracker.live = _ := gains.live
  rw [live]
  rfl

end Plain

end OfferDispatch
