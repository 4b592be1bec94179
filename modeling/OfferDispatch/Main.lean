import OfferDispatch.Pipeline.Demonstration
import OfferDispatch.Power

/-!
# The demonstration as a program

Everything is chosen by the environment: the settings of the scheduler, `FLEET_DEMO_WORKERS` for the
number of workers and `FLEET_DEMO_AGENTS` for that of simulated agents. Time passes as fast as it
can.
-/

namespace OfferDispatch.Demonstration

def settingNames : List String :=
  ["FLEET_OFFER_QUEUE_CAPACITY", "FLEET_OFFER_WAIT_SECS", "FLEET_DECLINE_OFFER_SECS",
    "FLEET_AFFINITY_CACHE_SIZE", "FLEET_COMMAND_QUEUE_SIZE", "FLEET_AGENT_TIMEOUT_SECS",
    "FLEET_MULTI_THREADED", "FLEET_ON_DEMAND_REGISTRATION", "FLEET_SLAVE_ATTRIBUTES",
    "FLEET_MASTER_URL", "FLEET_FRAMEWORK_NAME", "FLEET_ROLE", "FLEET_USER", "FLEET_PRINCIPAL",
    "FLEET_CONTROLLER_URL", "FLEET_LOG_LEVEL", "FLEET_DEMO_WORKERS", "FLEET_DEMO_AGENTS"]

def environment : IO Environment := do
  let found ← settingNames.mapM fun setting => do return (setting, ← IO.getEnv setting)
  return fun setting => (found.lookup setting).bind id

/-- Lets a demonstration pass to its end. -/
partial def present (d : Demonstration) : IO Unit := do
  let (events, d) := d.pass
  for e in events do
    IO.println (message e)
  if !d.isOver then present d
  else if d.isAttended then IO.println "all workers have ended"
  else IO.eprintln "the cluster has reported an unknown task"

def requestAll (d : Demonstration) : Nat → IO Demonstration
  | 0 => return d
  | workers + 1 => do
    let w := worker (Fin.ofNat (2 ^ 128) (← IO.rand 0 (2 ^ 128 - 1)))
    let (answer, d) := d.request w
    match answer with
    | .ok () => pure ()
    | .error e => IO.eprintln e.message
    requestAll d workers

/-- What is to be demonstrated: the settings, and the numbers of workers and agents. -/
def setting (env : Environment) : Except ConfigError (Config × Nat × Nat) := do
  return (← Config.load env, ← Config.number env "FLEET_DEMO_WORKERS" 3,
    ← Config.number env "FLEET_DEMO_AGENTS" 2)

/-- Requests the workers, and shows what becomes of them. -/
def exhibit (config : Config) (workers agents : Nat) : IO Unit := do
  let d ← requestAll (begin config agents ⟨0, 0⟩) workers
  if d.expected = 0 then IO.println "no workers" else present d

end OfferDispatch.Demonstration

open OfferDispatch.Demonstration in
def main : IO UInt32 := do
  match setting (← environment) with
  | .error e =>
    IO.eprintln e.message
    return 1
  | .ok (config, workers, agents) =>
    exhibit config workers agents
    return 0
