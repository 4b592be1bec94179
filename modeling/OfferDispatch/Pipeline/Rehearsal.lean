import OfferDispatch.Cluster.Simulated
import OfferDispatch.Pipeline.Desk

/-!
# A desk with a simulated cluster

The events of a simulated cluster are passed on to the scheduler as they arrive, and processing
loops deal with offers at once. A status is passed on only if the cluster still has its task. The
worker nodes of the host are the agents that have a task. If the scheduler does not know a task that
the cluster has, something has gone wrong beyond repair, and nothing is passed on any more.
-/

namespace OfferDispatch

/-- A desk with a simulated cluster. -/
abbrev Rehearsal (κ : Type) := Desk Cluster κ

namespace Rehearsal

variable {κ : Type}

def cluster (r : Rehearsal κ) : Cluster := r.scheduler.session.link.driver

def withCluster (r : Rehearsal κ) (c : Cluster) : Rehearsal κ :=
  { r with scheduler := { r.scheduler with session := { r.scheduler.session with
      link := { r.scheduler.session.link with driver := c } } } }

def new (cluster : Cluster) (info : FrameworkInfo) (attempts : Nat) (settings : SchedulerSettings)
    (pipeline : PipelineSettings) (date : Instant) : Rehearsal κ where
  settings := pipeline
  scheduler := .new settings (.new cluster info attempts)
  date := date
  nodes := Cluster.busy
  pipeline := .new pipeline
  flow := .scheduler

/-- Is the reply one after which nothing can go on? -/
def isFatal : Option Reply → Bool
  | some (.refused e) => e.isFatal
  | _ => false

def receive (r : Rehearsal κ) : ClusterEvent → Rehearsal κ
  | .registered id => (r.run (.registered id)).1
  | .idle agent =>
    let taken := r.cluster.takeOffers agent
    let r := r.withCluster taken.2
    if taken.1.isEmpty then r
    else
      let r := (r.run (.offers taken.1)).1
      r.takeTurns (r.scheduler.loops.length + 1)
  | .status status =>
    let observed := r.cluster.observe status
    let r := r.withCluster observed.2
    if observed.1 then
      let passed := r.run (.status status)
      if isFatal passed.2 then withCluster passed.1 { cluster passed.1 with attended := false }
      else passed.1
    else r

/-- Passes on the events that have arrived, but no more than a number of them. -/
def receiveAll : Nat → Rehearsal κ → Rehearsal κ
  | 0, r => r
  | fuel + 1, r =>
    if r.cluster.attended then
      match r.cluster.arrival? with
      | some (flight, cluster) => receiveAll fuel ((r.withCluster cluster).receive flight.event)
      | none => r
    else r

/-- How many events can arrive at one instant. -/
def arrivalsAtOnce : Nat := 100000

/-- What a simulated cluster does while time passes. -/
def backdrop : Desk.Backdrop Cluster κ where
  tick r := withCluster r { cluster r with clock := r.clock }
  act r := receiveAll arrivalsAtOnce r
  nextAt r := if (cluster r).attended then (cluster r).nextAt else none

end Rehearsal

end OfferDispatch
