import OfferDispatch.Error
import OfferDispatch.Launch.Claim
import OfferDispatch.Launch.Url
import OfferDispatch.Matching.Usable

/-!
# Building a task

A worker and an offer that satisfies it become a task: the command that connects an agent to the
controller, the claims on the offer, and the container with its ports bound.
-/

namespace OfferDispatch

structure Launcher where
  /-- Where agents connect to. -/
  controller : String
  role : String
  deriving DecidableEq, Repr, Inhabited

namespace Launcher

variable {α : Type}

/-- How a command refers to the directory of the task, in the language of its interpreter. -/
def sandbox : CommandStyle → String
  | .linux => "$\x7bMESOS_SANDBOX-.\x7d"
  | .windows => "%MESOS_SANDBOX%"

def agentCommand (l : Launcher) (w : WorkerSpec α) : String :=
  let secret := match w.secret with
    | some s => "-secret " ++ s
    | none => ""
  s!"java -DHUDSON_HOME=jenkins -server -Xmx{w.memory}m {w.jvmArguments} -jar " ++
    s!"{sandbox w.style}/agent.jar {w.agentArguments} {secret} -jnlpUrl " ++
    Url.agent l.controller w.name

/-- The files of a worker, the agent program first. -/
def files (l : Launcher) (w : WorkerSpec α) : List FetchedFile :=
  ⟨Url.agentProgram l.controller, false, false⟩ :: w.files

/-- The command of a worker. A container that names a program of its own has it run the command of
the agent; a blank name is refused. -/
def command (l : Launcher) (w : WorkerSpec α) : Except SpecFault CommandLine :=
  match w.container.bind (·.shell) with
  | some shell =>
    if Text.isBlankText shell then .error .blankShell
    else .ok ⟨shell, false, [l.agentCommand w], l.files w⟩
  | none => .ok ⟨l.agentCommand w, true, [], l.files w⟩

/-- The container of a task with its ports bound. It has a host name of its own unless it shares the
network of the host. -/
def container (worker : TaskId) (c : ContainerSpec) (allocated : List UInt64) : HostContainer where
  image := c.image
  network := c.network
  privileged := c.privileged
  forcePull := c.forcePull
  parameters := c.parameters
  ports := bindPorts c.ports allocated
  volumes := c.volumes
  networks := (c.networks.map Text.trim).filter fun n => !n.isEmpty
  hostname := if c.network = .host then none else some worker.text

/-- The task for a worker on an offer, given the host ports for its dynamic mappings. -/
def build [Amount α] (l : Launcher) (o : Offer α) (w : WorkerSpec α) (allocated : List UInt64) :
    Except SpecFault (Task α) :=
  match l.command w with
  | .error fault => .error fault
  | .ok command =>
    .ok {
      id := w.name
      title := "task " ++ w.name.text
      agent := o.agent
      resources := claims (o.usable l.role) (.ofWorker w) ++
        claimPorts o.portRole (bindPorts w.portMappings allocated)
      command := command
      container := w.container.map fun c => container w.name c allocated }

end Launcher

end OfferDispatch
