import OfferDispatch.Cluster.Driver
import OfferDispatch.Tracking.Status

/-!
# A simulated cluster

Agents that are idle offer all they have, one offer each, and run one task at a time. Nothing
happens inside a call: what follows from it is put into flight, to arrive some milliseconds later. A
launched task is staged, runs, and finishes; a killed one is reported as killed at once. What is in
flight when a task ends or the framework disconnects still arrives, and it is up to the receiver to
tell whether it matters.

Launches are numbered, and whatever is in flight on account of a launch says so.
-/

namespace OfferDispatch

structure Assignment where
  task : TaskId
  launch : Nat
  deriving DecidableEq, Repr, Inhabited

structure SimulatedAgent where
  id : AgentId
  hostname : String
  offered : Option OfferId := none
  assigned : Option Assignment := none
  deriving DecidableEq, Repr, Inhabited

namespace SimulatedAgent

def isIdle (a : SimulatedAgent) : Bool := a.assigned.isNone && a.offered.isNone

def runs (a : SimulatedAgent) (task : TaskId) : Bool := a.assigned.any fun t => t.task == task

def offer (a : SimulatedAgent) (id : OfferId) : Offer Float where
  id := id
  agent := a.id
  hostname := a.hostname
  resources := [⟨ResourceName.cpus, anyRole, .scalar 4.0⟩,
    ⟨ResourceName.mem, anyRole, .scalar 8192.0⟩,
    ⟨ResourceName.disk, anyRole, .scalar 20000.0⟩,
    ⟨ResourceName.ports, anyRole, .ranges [⟨31000, 32000⟩]⟩]
  attributes := [⟨"os", "linux"⟩]
  maintenance := none

end SimulatedAgent

inductive ClusterEvent
  | registered (id : FrameworkId)
  /-- Agents may be idle: all of them, or a certain one. -/
  | idle (agent : Option AgentId)
  | status (status : TaskStatus)
  deriving DecidableEq, Repr, Inhabited

/-- An event under way. -/
structure Flight where
  /-- The millisecond of its arrival. -/
  due : Nat
  event : ClusterEvent
  /-- The launch that it is on account of. -/
  launch : Option Nat
  deriving DecidableEq, Repr, Inhabited

structure Cluster where
  agents : List SimulatedAgent
  /-- How many milliseconds a task runs. -/
  runtime : Nat
  /-- The id that is assigned to a framework. -/
  freshId : FrameworkId
  /-- The current millisecond. -/
  clock : Nat := 0
  registered : Bool := false
  frameworkId : Option FrameworkId := none
  /-- How many offers were made. -/
  offersMade : Nat := 0
  /-- How many tasks were launched. -/
  launches : Nat := 0
  /-- Events under way, in the order in which they were put into flight. -/
  inFlight : List Flight := []
  /-- Somebody receives the events. -/
  attended : Bool := true
  deriving Inhabited

namespace Cluster

/-- Agents without anything to do. -/
def agentsNamed (count : Nat) : List SimulatedAgent :=
  (List.range count).map fun i =>
    { id := ⟨"agent-" ++ toString i⟩, hostname := "sim-host-" ++ toString i }

def new (count runtime : Nat) : Cluster :=
  { agents := agentsNamed count, runtime := runtime, freshId := default }

/-- How long it takes to stage a task, and to answer a registration with offers. -/
def stagingDelay : Nat := 50

def runningDelay : Nat := 300

/-- Puts an event into flight. -/
def sendLater (c : Cluster) (delay : Nat) (event : ClusterEvent) (launch : Option Nat) : Cluster :=
  { c with inFlight := c.inFlight ++ [⟨c.clock + delay, event, launch⟩] }

def busy (c : Cluster) : Nat := c.agents.countP (·.assigned.isSome)

/-- Changes the first agent that satisfies a test. -/
def changeFirst (test : SimulatedAgent → Bool) (change : SimulatedAgent → SimulatedAgent) :
    List SimulatedAgent → List SimulatedAgent
  | [] => []
  | a :: rest => if test a then change a :: rest else a :: changeFirst test change rest

def hasOffered (offer : OfferId) (a : SimulatedAgent) : Bool := a.offered == some offer

/-- Makes the offers of idle agents, or of a certain one, and numbers them from the next number. -/
def offerFrom (only : Option AgentId) : Nat → List SimulatedAgent →
    List (Offer Float) × List SimulatedAgent × Nat
  | made, [] => ([], [], made)
  | made, a :: rest =>
    if a.isIdle && only.all (· == a.id) then
      let id : OfferId := ⟨"offer-" ++ toString (made + 1)⟩
      let others := offerFrom only (made + 1) rest
      (a.offer id :: others.1, { a with offered := some id } :: others.2.1, others.2.2)
    else
      let others := offerFrom only made rest
      (others.1, a :: others.2.1, others.2.2)

/-- Makes the offers of idle agents, or of a certain one; none unless a framework is registered. -/
def takeOffers (c : Cluster) (only : Option AgentId) : List (Offer Float) × Cluster :=
  if c.registered then
    let taken := offerFrom only c.offersMade c.agents
    (taken.1, { c with agents := taken.2.1, offersMade := taken.2.2 })
  else ([], c)

/-- Is the status for a task that an agent has? If it ends the task, the agent becomes idle. -/
def observe (c : Cluster) (status : TaskStatus) : Bool × Cluster :=
  match c.agents.find? (·.runs status.task) with
  | none => (false, c)
  | some agent =>
    if status.state.isTerminal then
      let agents :=
        changeFirst (·.runs status.task) (fun a => { a with assigned := none }) c.agents
      (true, { c with agents := agents }.sendLater 0 (.idle (some agent.id)) none)
    else (true, c)

/-- The launch that a task comes from. -/
def launchOf (c : Cluster) (task : TaskId) : Option Nat :=
  ((c.agents.find? (·.runs task)).bind (·.assigned)).map (·.launch)

def register (c : Cluster) (info : FrameworkInfo) : Cluster :=
  let id := c.frameworkId.getD (info.id.getD c.freshId)
  ({ c with registered := true, frameworkId := some id }.sendLater 0 (.registered id)
    none).sendLater stagingDelay (.idle none) none

def launch (c : Cluster) (offer : OfferId) (task : Task Float) : Answer × Cluster :=
  if c.agents.any (hasOffered offer) then
    let number := c.launches
    let status (state : TaskState) (message : Option String) : ClusterEvent :=
      .status ⟨task.id, state, message⟩
    let agents := changeFirst (hasOffered offer)
      (fun a => { a with offered := none, assigned := some ⟨task.id, number⟩ }) c.agents
    let c := { c with agents := agents, launches := number + 1 }
    let c := c.sendLater stagingDelay (status .staging none) (some number)
    let c := c.sendLater runningDelay (status .running none) (some number)
    (.ok (), c.sendLater (runningDelay + c.runtime) (status .finished (some "Agent exited"))
      (some number))
  else (.error ⟨s!"offer {offer.text} is no longer valid"⟩, c)

/-- Takes an offer back from its agent, which will be idle again after some time. -/
def decline (c : Cluster) (offer : OfferId) (refuse : Duration) : Cluster :=
  match c.agents.find? (hasOffered offer) with
  | none => c
  | some agent =>
    let agents := changeFirst (hasOffered offer) (fun a => { a with offered := none }) c.agents
    { c with agents := agents }.sendLater refuse.millisUp (.idle (some agent.id)) none

/-- Kills a task, whether or not there is one. -/
def kill (c : Cluster) (task : TaskId) : Cluster :=
  c.sendLater 0 (.status ⟨task, .killed, some "Killed"⟩) (c.launchOf task)

/-- Disconnects the framework, and takes back what was offered to it. -/
def disconnect (c : Cluster) : Cluster :=
  { c with registered := false, agents := c.agents.map fun a => { a with offered := none } }

instance : ClusterDriver Cluster where
  answer
    | .register info, c => (.ok (), c.register info)
    | .launch offer task, c => c.launch offer task
    | .kill task, c => (.ok (), c.kill task)
    | .decline offer refuse, c => (.ok (), c.decline offer refuse)
    | .revive, c => (.ok (), c.sendLater 0 (.idle none) none)
    | .stop, c => (.ok (), c.disconnect)

/-- The millisecond of the next arrival. -/
def nextAt (c : Cluster) : Option Nat := (c.inFlight.map (·.due)).min?

/-- The first event to arrive by now; of those that arrive together, the one that was put into
flight first. -/
def arrival? (c : Cluster) : Option (Flight × Cluster) :=
  match c.nextAt with
  | none => none
  | some due =>
    if due ≤ c.clock then
      (c.inFlight.find? fun f => f.due == due).map fun f =>
        (f, { c with inFlight := c.inFlight.eraseP fun f => f.due == due })
    else none

end Cluster

end OfferDispatch
