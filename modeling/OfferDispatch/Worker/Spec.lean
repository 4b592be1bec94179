import OfferDispatch.Constraint.Selector

/-!
# Workers

What the host asks for when it requests a worker: how much of an agent it takes, on which agents it
may run, how it is started, and in which container if any.
-/

namespace OfferDispatch

inductive CommandStyle
  | linux
  | windows
  deriving DecidableEq, Repr, Inhabited

structure FetchedFile where
  uri : String
  executable : Bool
  extract : Bool
  deriving DecidableEq, Repr, Inhabited

/-- How a container is connected. -/
inductive NetworkMode
  | host
  | bridge
  | user
  deriving DecidableEq, Repr, Inhabited

/-- A port of a container, to be bound to a port of the host. -/
structure PortMapping where
  containerPort : UInt32
  /-- The port of the host; without one, a port of the offer is taken. -/
  hostPort : Option UInt32
  protocol : String
  deriving DecidableEq, Repr, Inhabited

namespace PortMapping

def isDynamic (m : PortMapping) : Bool := m.hostPort.isNone

end PortMapping

structure Volume where
  containerPath : String
  hostPath : Option String
  readOnly : Bool
  deriving DecidableEq, Repr, Inhabited

structure ContainerSpec where
  image : String
  network : NetworkMode
  privileged : Bool
  forcePull : Bool
  parameters : List (String × String)
  ports : List PortMapping
  volumes : List Volume
  networks : List String
  /-- The program that is given the command of the worker, in place of the interpreter. -/
  shell : Option String
  deriving DecidableEq, Repr, Inhabited

structure WorkerSpec (α : Type) where
  name : TaskId
  label : String
  cpus : α
  /-- The heap in megabytes. -/
  memory : UInt32
  disk : α
  selector : Selector
  jvmArguments : String
  agentArguments : String
  secret : Option String
  style : CommandStyle
  files : List FetchedFile
  container : Option ContainerSpec
  deriving DecidableEq, Inhabited

namespace WorkerSpec

variable {α : Type}

/-- The ports of the container, if there is one. -/
def portMappings (w : WorkerSpec α) : List PortMapping :=
  match w.container with
  | some c => c.ports
  | none => []

/-- How many host ports are to be taken from the offer. -/
def dynamicPorts (w : WorkerSpec α) : Nat := w.portMappings.countP (·.isDynamic)

def hasPortMappings (w : WorkerSpec α) : Bool := !w.portMappings.isEmpty

end WorkerSpec

end OfferDispatch
