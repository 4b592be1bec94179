import OfferDispatch.Worker.Request

/-!
# Commands and events

What is submitted to the pipeline, and what it publishes about workers.
-/

namespace OfferDispatch

inductive Command
  | launch (spec : WorkerSpec Float)
  | kill (worker : TaskId)
  deriving Inhabited

namespace Command

/-- The name of what is to be done. -/
def operation : Command → String
  | launch _ => "Launch"
  | kill _ => "Kill"

def target : Command → TaskId
  | launch spec => spec.name
  | kill worker => worker

end Command

inductive StateEvent
  /-- The worker waits for an offer. -/
  | enqueued (worker : TaskId)
  | notice (kind : NoticeKind) (place : WorkerPlace)
  /-- The worker is to be killed. -/
  | killRequested (worker : TaskId)
  deriving DecidableEq, Repr, Inhabited

namespace StateEvent

def worker : StateEvent → TaskId
  | enqueued worker => worker
  | notice _ place => place.worker
  | killRequested worker => worker

/-- A worker has failed without reaching an agent. -/
def failed (worker : TaskId) : StateEvent := notice .failed ⟨worker, none⟩

end StateEvent

/-- Who is called back about a worker: the event stream of the pipeline, or a host. -/
inductive Listener (κ : Type)
  | stream
  | host (callback : κ)
  deriving Inhabited

/-- The events among notices, in their order. -/
def streamed {κ : Type} (notices : List (Notice (Listener κ))) : List StateEvent :=
  notices.filterMap fun n => match n.callback with
    | .stream => some (.notice n.kind n.place)
    | .host _ => none

/-- The notices to hosts, in their order. -/
def toHosts {κ : Type} (notices : List (Notice (Listener κ))) : List (Notice κ) :=
  notices.filterMap fun n => match n.callback with
    | .stream => none
    | .host callback => some ⟨n.kind, n.place, callback⟩

end OfferDispatch
