import OfferDispatch.Scheduler.Action

/-!
# Operations

What hosts and the cluster ask of the scheduler. An operation is an agenda of actions; a run does
its actions one after another, with everything that follows from each, and no others in between. A
run tells what hosts were told, in order, and what the caller got.
-/

namespace OfferDispatch

/-- News from the cluster that changes nothing. -/
inductive Remark
  | reregistered
  | disconnected
  | agentLost (agent : AgentId)
  deriving DecidableEq, Repr, Inhabited

/-- What the scheduler can be asked to do. -/
inductive Operation (κ : Type)
  /-- The host asks for a worker. -/
  | request (spec : WorkerSpec Float) (callback : κ)
  /-- The host gives up a worker. -/
  | cancel (worker : TaskId)
  /-- The cluster offers resources. -/
  | offers (delivered : List (Offer Float))
  /-- Offers are to be placed that do not pass through the buffer. -/
  | process (batch : List (Offer Float))
  /-- The cluster takes an offer back. -/
  | rescind (offer : OfferId)
  /-- The cluster has assigned an id. -/
  | registered (id : FrameworkId)
  | status (status : TaskStatus)
  | remark (news : Remark)
  /-- The driver has failed beyond recovery. -/
  | error (message : String)
  | stop
  | supervise
  /-- A processing loop goes on. -/
  | turn (generation : Nat)
  deriving Inhabited

namespace Operation

variable {κ : Type}

def agenda (settings : SchedulerSettings) : Operation κ → List (Action κ)
  | .request spec callback => [.enlist ⟨spec, callback⟩]
  | .cancel worker => [.cancel worker]
  | .offers delivered =>
    (if settings.multiThreaded then [.startLoop] else []) ++ delivered.map .accept ++
      (if settings.multiThreaded then [] else [.drain]) ++ [.answer .done]
  | .process batch => [.place batch, .answer .done]
  | .rescind offer => [.rescind offer, .answer .done]
  | .registered id => [.assign id, .answer .done]
  | .status s => [.apply s]
  | .remark _ => [.answer .done]
  | .error _ => [.stop, .answer .done]
  | .stop => [.stop, .answer .done]
  | .supervise => [.inspect]
  | .turn generation => [.turn generation, .answer .done]

end Operation

/-- What becomes of a run, so far. -/
structure Run (δ κ : Type) where
  scheduler : Scheduler δ κ
  /-- What hosts were told. -/
  told : List (Notice κ) := []
  reply : Option Reply := none

namespace Run

variable {δ κ : Type} [ClusterDriver δ]

/-- Does an action and all that follows from it, so many levels deep. -/
def step (env : Surroundings) : Nat → Run δ κ → Action κ → Run δ κ
  | _, run, .tell notice => { run with told := run.told ++ [notice] }
  | _, run, .answer reply => { run with reply := some reply }
  | 0, run, _ => run
  | depth + 1, run, action =>
    let done := run.scheduler.perform env action
    done.1.foldl (step env depth) { run with scheduler := done.2 }

end Run

namespace Scheduler

variable {δ κ : Type} [ClusterDriver δ]

/-- How deep actions follow from one another: no action is higher than three. -/
def depth : Nat := 4

/-- Does the actions of an agenda and all that follows from them. -/
def carryOut (env : Surroundings) (s : Scheduler δ κ) (agenda : List (Action κ)) : Run δ κ :=
  agenda.foldl (Run.step env depth) { scheduler := s }

def run (env : Surroundings) (s : Scheduler δ κ) (o : Operation κ) : Run δ κ :=
  s.carryOut env (o.agenda s.settings)

end Scheduler

end OfferDispatch
