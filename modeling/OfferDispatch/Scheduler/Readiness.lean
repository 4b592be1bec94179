import OfferDispatch.Scheduler.State

/-!
# Is a worker ready?

A worker is ready while its task runs. It is pending while it waits or its task has not come so far,
and it has failed when its task has ended or nothing is known of it.
-/

namespace OfferDispatch

/-- What one look at a worker shows. -/
inductive Readiness
  | ready
  | pending
  /-- The worker will never be ready. -/
  | failed (reason : String)
  deriving DecidableEq, Repr, Inhabited

namespace Scheduler

variable {δ κ : Type}

/-- Why a worker that has ended will not be ready. -/
def endReason (worker : TaskId) (ending : Ending) : String :=
  s!"Agent {worker.text} became {ending.state.text}: " ++ ending.message.getD ""

def readiness (s : Scheduler δ κ) (worker : TaskId) : Readiness :=
  match s.tracker.find? worker with
  | some task => if task.state = .running then .ready else .pending
  | none =>
    if s.requests.contains worker then .pending
    else match s.tracker.ending? worker with
      | some ending => .failed (endReason worker ending)
      | none => .failed s!"Agent {worker.text} is no longer known"

def isAwaitable (s : Scheduler δ κ) (worker : TaskId) : Bool :=
  s.requests.contains worker || (s.tracker.state? worker).isSome

end Scheduler

end OfferDispatch
