import OfferDispatch.Cluster.Framework
import OfferDispatch.Constraint.Selector
import OfferDispatch.Time.Duration

/-!
# Settings

What an operator can choose, with what holds when nothing is chosen.
-/

namespace OfferDispatch

/-- How long an offer that does not fit is declined for, so that it comes back soon. -/
def shortDecline : Duration := .ofSeconds 1

structure SchedulerSettings where
  /-- The role whose resources may be used beside those open to all. -/
  role : String := anyRole
  /-- Where agents connect to. -/
  controller : String := "http://127.0.0.1:8080/"
  /-- How many offers are held at a time; zero for any number. -/
  capacity : Nat := 100
  /-- How long the processing loop waits for an offer. -/
  offerWait : Duration := .ofSeconds 600
  /-- How long an offer is declined for when no worker is waiting. -/
  declineFor : Duration := .ofSeconds 600
  /-- Are offers processed by a loop of their own? -/
  multiThreaded : Bool := false
  /-- Is the session stopped when nothing is left to do? -/
  onDemand : Bool := true
  /-- How many agents are remembered for having taken a task. -/
  affinitySize : Nat := 10
  /-- Selectors for workers that bring none. -/
  labels : LabelSelectors := .none
  deriving DecidableEq, Inhabited

structure PipelineSettings where
  /-- How many commands may wait. -/
  queueSize : Nat := 16
  /-- How long a worker may take to come online. -/
  agentTimeout : Duration := .ofSeconds 600
  /-- How long to wait between two looks at a worker. -/
  pollInterval : Duration := .ofSeconds 1
  deriving DecidableEq, Repr, Inhabited

/-- Settings with another queue size; a queue holds at least one command. -/
def PipelineSettings.withQueueSize (s : PipelineSettings) (size : Nat) : PipelineSettings :=
  { s with queueSize := max size 1 }

end OfferDispatch
