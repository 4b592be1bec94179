import OfferDispatch.Cluster.Driver
import OfferDispatch.Launch.Launcher
import OfferDispatch.Tracking.Tracker

/-!
# Submitting a task

A request that has been taken out of the queue either becomes a live task or fails: a task that
cannot be built is not submitted, and one that the cluster refuses is not tracked. Either failure is
what the host is told.
-/

namespace OfferDispatch

structure Submission (δ κ : Type) where
  result : Except SchedulerError TaskId
  link : Link δ
  tracker : Tracker κ
  /-- What the host is to be told. -/
  notices : List (Notice κ)

namespace Launcher

variable {δ κ : Type} [ClusterDriver δ]

/-- Builds the task of a request and submits it on an offer. -/
def submit (l : Launcher) (link : Link δ) (o : Offer Float) (r : Request κ)
    (allocated : List UInt64) (tracker : Tracker κ) : Submission δ κ :=
  match l.build o r.spec allocated with
  | .error fault => ⟨.error (.invalidSpec r.name fault), link, tracker, [r.failed]⟩
  | .ok task =>
    match link.call (.launch o.id task) with
    | (.ok (), link) => ⟨.ok r.name, link, tracker.insert (.launched o.id o.agent r), []⟩
    | (.error e, link) => ⟨.error (.driver e), link, tracker, [r.failed]⟩

end Launcher

end OfferDispatch
