import OfferDispatch.Config.Environment
import OfferDispatch.Pipeline.Rehearsal

/-!
# A demonstration

Workers are requested all at once from a scheduler with a simulated cluster. The demonstration is
over when each of them has ended and the session has been torn down, unless it is meant to stay, or
when the cluster is not attended to any more.
-/

namespace OfferDispatch

structure Demonstration where
  rehearsal : Rehearsal Unit
  /-- How many workers were requested. -/
  expected : Nat := 0
  /-- How many of them have ended. -/
  ended : Nat := 0

namespace Demonstration

/-- How many milliseconds a task runs. -/
def runtime : Nat := 2000

/-- How many milliseconds pass between two looks at what has happened. -/
def round : Nat := 500

def begin (config : Config) (agents : Nat) (today : Instant) : Demonstration where
  rehearsal := .new (.new agents runtime) config.framework 5 config.scheduler config.pipeline today

/-- A worker with a name of its own. -/
def worker (fresh : Ulid) : WorkerSpec Float where
  name := .generate "fleet-worker" fresh
  label := "linux"
  cpus := 1.0
  memory := 1024
  disk := 0.0
  selector := .any
  jvmArguments := ""
  agentArguments := ""
  secret := none
  style := .linux
  files := []
  container := none

def request (d : Demonstration) (w : WorkerSpec Float) : Except SubmitError Unit × Demonstration :=
  let submitted := d.rehearsal.pipeline.submit (.launch w)
  let rehearsal := { d.rehearsal with pipeline := submitted.2 }
  match submitted.1 with
  | .ok () => (.ok (), { d with rehearsal := rehearsal, expected := d.expected + 1 })
  | .error e => (.error e, { d with rehearsal := rehearsal })

def isEnd : StateEvent → Bool
  | .notice .finished _ | .notice .failed _ => true
  | _ => false

/-- What has happened to a worker, in words. -/
def message : StateEvent → String
  | .enqueued worker => s!"{worker.text} waits for an offer"
  | .notice kind place => s!"{place.worker.text} {kind.name}" ++ match place.agent with
    | some agent => s!" on {agent.text}"
    | none => ""
  | .killRequested worker => s!"{worker.text} is to be killed"

/-- Lets a round pass, and tells what has happened in it. -/
def pass (d : Demonstration) : List StateEvent × Demonstration :=
  let r := d.rehearsal.advance Rehearsal.backdrop round
  (r.heard, { d with rehearsal := { r with heard := [] }, ended := d.ended + r.heard.countP isEnd })

def isAttended (d : Demonstration) : Bool := (Rehearsal.cluster d.rehearsal).attended

def awaitsTeardown (d : Demonstration) : Bool :=
  d.rehearsal.scheduler.session.running && d.rehearsal.scheduler.settings.onDemand

def isOver (d : Demonstration) : Bool :=
  (decide (d.expected ≤ d.ended) && !d.awaitsTeardown) || !d.isAttended

end Demonstration

end OfferDispatch
