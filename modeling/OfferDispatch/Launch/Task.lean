import OfferDispatch.Worker.Spec

/-!
# Tasks

What is submitted to the cluster for one worker: the resources it claims, the command it runs, and
its container with every port bound.
-/

namespace OfferDispatch

structure CommandLine where
  value : String
  /-- The command interpreter runs the value; otherwise the value is a program that is given the
  arguments. -/
  shell : Bool
  arguments : List String
  files : List FetchedFile
  deriving DecidableEq, Repr, Inhabited

structure BoundPort where
  containerPort : UInt32
  hostPort : UInt64
  protocol : String
  deriving DecidableEq, Repr, Inhabited

structure HostContainer where
  image : String
  network : NetworkMode
  privileged : Bool
  forcePull : Bool
  parameters : List (String × String)
  ports : List BoundPort
  volumes : List Volume
  networks : List String
  hostname : Option String
  deriving DecidableEq, Repr, Inhabited

structure Task (α : Type) where
  id : TaskId
  title : String
  agent : AgentId
  resources : List (Resource α)
  command : CommandLine
  container : Option HostContainer
  deriving DecidableEq, Repr, Inhabited

/-- The sum of what the task claims of a scalar resource. -/
def Task.scalar {α : Type} [Amount α] (t : Task α) (name : String) : α :=
  Amount.sum ((t.resources.filter fun r => r.name == name).filterMap (·.amount?))

end OfferDispatch
