import OfferDispatch.Proofs.Calls
import OfferDispatch.Proofs.FrontEnds

/-!
# Kills

A command to kill a worker is a cancellation. Only for a live task is the cluster asked to kill it,
and it is asked once; for a request that waits, and for a worker of which nothing is known, nothing
is asked. All that can be said besides is that supervision stops the session.

The event that a kill was requested follows from the reply alone, and a cancellation without a call
is not refused. So the event says that a kill was sent exactly if the task is live; otherwise it is
published although none was sent.
-/

namespace OfferDispatch

variable {δ κ : Type} [ClusterDriver δ]

/-! ## What is said in a cancellation -/

namespace Scheduler

theorem speaks_wrapUp (env : Surroundings) (s : Scheduler δ κ) :
    s.session.link.Speaks (· = .stop) (s.wrapUp env).session.link := by
  rw [wrapUp]
  split
  · exact s.speaks_supervise env.nodes
  · exact .silent

/-- How the cluster answers if it is asked to kill a task now. -/
def killAnswer (s : Scheduler δ κ) (worker : TaskId) : Answer := (s.session.call (.kill worker)).1

/-- The call to kill a worker, if it is made. -/
def killCall (s : Scheduler δ κ) (worker : TaskId) : List Exchange :=
  if s.tracker.contains worker then [.call (.kill worker) (s.killAnswer worker)] else []

/-- To cancel a worker, the cluster is asked to kill it if it is live. Besides, the session may be
stopped. -/
theorem log_run_cancel (env : Surroundings) (s : Scheduler δ κ) (worker : TaskId) :
    ∃ rest, (s.run env (.cancel worker)).scheduler.log = s.log ++ s.killCall worker ++ rest ∧
      ∀ c answer, .call c answer ∈ rest → c = .stop := by
  rw [run_cancel, killCall]
  split
  · obtain ⟨rest, log, stops⟩ :=
      (speaks_wrapUp env { s with session := (s.session.call (.kill worker)).2 }).exists_said
    exact ⟨rest, log, stops⟩
  · rw [List.append_nil]
    cases s.requests.remove? worker with
    | some taken => exact (speaks_wrapUp env { s with requests := taken.2 }).exists_said
    | none => exact (s.speaks_wrapUp env).exists_said

end Scheduler

/-! ## What is published -/

omit [ClusterDriver δ] in
/-- No notice says that a kill was requested. -/
theorem killRequested_not_mem_streamed (worker : TaskId) (told : List (Notice (Listener κ))) :
    .killRequested worker ∉ streamed told := by
  intro member
  obtain ⟨n, -, event⟩ := List.mem_filterMap.1 member
  cases listener : n.callback <;> simp [listener] at event

theorem killRequested_mem_answer_iff {worker : TaskId} {reply : Option Reply} :
    .killRequested worker ∈ (Command.kill worker).answer reply ↔
      ∀ e, reply ≠ some (.refused e) := by
  rcases reply with _ | ⟨_ | e | _ | _⟩ <;> simp [Command.answer]

namespace Scheduler

/-- That a kill was requested is published unless the worker is live and the cluster does not kill
it. -/
theorem killRequested_mem_events_iff (env : Surroundings) (s : Scheduler δ (Listener κ))
    (worker : TaskId) :
    .killRequested worker ∈ (s.handle env (.kill worker)).events ↔
      (s.tracker.contains worker = true → s.killAnswer worker = .ok ()) := by
  have published : .killRequested worker ∈ (s.handle env (.kill worker)).events ↔
      ∀ e, (s.run env (.cancel worker)).reply ≠ some (.refused e) := by
    rw [← killRequested_mem_answer_iff]
    exact List.mem_append.trans (or_iff_right (killRequested_not_mem_streamed worker _))
  rw [published, reply_cancel, killAnswer]
  by_cases live : s.tracker.contains worker = true
  · cases (s.session.call (.kill worker)).1 with
    | ok => simp [live]
    | error e => simp [live]
  · simp [live]

omit [ClusterDriver δ] in
theorem kill_mem_append_iff {said rest : List Exchange} {worker : TaskId} {answer : Answer}
    (stops : ∀ c answer, .call c answer ∈ rest → c = .stop) :
    .call (.kill worker) answer ∈ said ++ rest ↔ .call (.kill worker) answer ∈ said :=
  List.mem_append.trans (or_iff_left fun member => nomatch stops _ _ member)

theorem kill_mem_killCall_iff {s : Scheduler δ κ} {worker : TaskId} {answer : Answer} :
    .call (.kill worker) answer ∈ s.killCall worker ↔
      s.tracker.contains worker = true ∧ s.killAnswer worker = answer := by
  rw [killCall]
  split
  · next live => simp [live, eq_comm]
  · next absent => simp [absent]

/-- What a command to kill a worker has said and published. If the worker is live, the cluster is
asked once to kill it, and otherwise not at all. It is published that a kill was requested if that
call succeeded, and also if none was made: so the event stands for a kill that was sent if the
worker is live, and for none if it waits or nothing is known of it. -/
theorem kill_requested_for_kill_sent_iff_live (env : Surroundings) (s : Scheduler δ (Listener κ))
    (worker : TaskId) :
    let handled := s.handle env (.kill worker)
    let live := s.tracker.contains worker = true
    let accepted := s.killAnswer worker = .ok ()
    ∃ said, handled.run.scheduler.log = s.log ++ said ∧
      (∃ rest, said = s.killCall worker ++ rest ∧ ∀ c answer, .call c answer ∈ rest → c = .stop) ∧
      (.call (.kill worker) (.ok ()) ∈ said ↔ live ∧ accepted) ∧
      (.killRequested worker ∈ handled.events ↔ (live → accepted)) ∧
      ((.killRequested worker ∈ handled.events ↔ .call (.kill worker) (.ok ()) ∈ said) ↔ live) := by
  intro handled live accepted
  obtain ⟨rest, log, stops⟩ := s.log_run_cancel env worker
  have sent : .call (.kill worker) (.ok ()) ∈ s.killCall worker ++ rest ↔ live ∧ accepted :=
    (kill_mem_append_iff stops).trans kill_mem_killCall_iff
  have published : .killRequested worker ∈ handled.events ↔ (live → accepted) :=
    s.killRequested_mem_events_iff env worker
  refine ⟨s.killCall worker ++ rest, ?_, ⟨rest, rfl, stops⟩, sent, published, ?_⟩
  · rw [← List.append_assoc]
    exact log
  · rw [sent, published]
    by_cases here : live
    · simp [here]
    · simp [here]

end Scheduler

namespace Plain

def waitingRoom : Scheduler Recorder (Listener Unit) :=
  ((Scheduler.new {} session).run moment (.request (worker "w") .stream)).scheduler

/-- A worker that waits is to be killed. That this was requested is published, but the cluster is
not asked. -/
theorem kill_requested_for_kill_sent_iff_live_waiting :
    let handled := waitingRoom.handle moment (.kill ⟨"w"⟩)
    waitingRoom.requests.contains ⟨"w"⟩ = true ∧
      handled.events = [.failed ⟨"w"⟩, .killRequested ⟨"w"⟩] ∧
      ∃ said, handled.run.scheduler.log = waitingRoom.log ++ said ∧
        .call (.kill ⟨"w"⟩) (.ok ()) ∉ said := by
  intro handled
  obtain ⟨said, log, -, sent, -⟩ :=
    waitingRoom.kill_requested_for_kill_sent_iff_live moment ⟨"w"⟩
  have absent : waitingRoom.tracker.contains ⟨"w"⟩ = false := by decide +kernel
  refine ⟨by decide +kernel, by decide +kernel, said, log, fun member => ?_⟩
  rw [(sent.1 member).1] at absent
  cases absent

end Plain

end OfferDispatch
