import OfferDispatch.Config.Settings
import OfferDispatch.Power
import OfferDispatch.Text.Natural
import OfferDispatch.Text.Quoted

/-!
# Settings from the environment

Settings are looked up by name. A number or a truth value that is absent or blank takes its default;
one that cannot be read is an error, and of several the first in a fixed order is told. A text is
taken as it is. Selectors are read leniently and are never an error.
-/

namespace OfferDispatch

abbrev Environment := String → Option String

/-- A setting that cannot be read, as it was found. -/
structure ConfigError where
  setting : String
  raw : String
  cause : Option Text.NumeralFault
  deriving DecidableEq, Repr

/-- The error in words, without its cause. -/
def ConfigError.message (e : ConfigError) : String :=
  s!"invalid value for {e.setting}: {Text.quoted e.raw}"

structure Config where
  master : String
  logLevel : String
  framework : FrameworkInfo
  scheduler : SchedulerSettings
  pipeline : PipelineSettings
  deriving DecidableEq, Inhabited

namespace Config

/-- One more than the largest number a setting can have. -/
def numberBound : Nat := 2 ^ 64

def number (env : Environment) (setting : String) (default : Nat) : Except ConfigError Nat :=
  match env setting with
  | none => .ok default
  | some raw =>
    if Text.isBlankText raw then .ok default
    else match Text.readNumeral numberBound (Text.trimChars raw.toList) with
      | .ok n => .ok n
      | .error fault => .error ⟨setting, raw, some fault⟩

def flag (env : Environment) (setting : String) (default : Bool) : Except ConfigError Bool :=
  match env setting with
  | none => .ok default
  | some raw =>
    let word := String.ofList ((Text.trimChars raw.toList).map Char.toLower)
    if word = "" then .ok default
    else if word ∈ ["1", "true", "yes", "on"] then .ok true
    else if word ∈ ["0", "false", "no", "off"] then .ok false
    else .error ⟨setting, raw, none⟩

def text (env : Environment) (setting default : String) : String := (env setting).getD default

def load (env : Environment) : Except ConfigError Config := do
  let scheduler : SchedulerSettings := {}
  let pipeline : PipelineSettings := {}
  let capacity ← number env "FLEET_OFFER_QUEUE_CAPACITY" scheduler.capacity
  let offerWait ← number env "FLEET_OFFER_WAIT_SECS" scheduler.offerWait.seconds
  let declineFor ← number env "FLEET_DECLINE_OFFER_SECS" scheduler.declineFor.seconds
  let affinitySize ← number env "FLEET_AFFINITY_CACHE_SIZE" scheduler.affinitySize
  let queueSize ← number env "FLEET_COMMAND_QUEUE_SIZE" pipeline.queueSize
  let agentTimeout ← number env "FLEET_AGENT_TIMEOUT_SECS" pipeline.agentTimeout.seconds
  let multiThreaded ← flag env "FLEET_MULTI_THREADED" scheduler.multiThreaded
  let onDemand ← flag env "FLEET_ON_DEMAND_REGISTRATION" scheduler.onDemand
  let role := text env "FLEET_ROLE" scheduler.role
  return {
    master := text env "FLEET_MASTER_URL" "http://127.0.0.1:5050"
    logLevel := text env "FLEET_LOG_LEVEL" "info"
    framework := {
      name := text env "FLEET_FRAMEWORK_NAME" "fleet-scheduler"
      user := text env "FLEET_USER" ""
      role := role
      principal := text env "FLEET_PRINCIPAL" "fleet"
      id := none }
    scheduler := {
      role := role
      controller := text env "FLEET_CONTROLLER_URL" scheduler.controller
      capacity := capacity
      offerWait := .ofSeconds offerWait
      declineFor := .ofSeconds declineFor
      multiThreaded := multiThreaded
      onDemand := onDemand
      affinitySize := affinitySize
      labels := .read (text env "FLEET_SLAVE_ATTRIBUTES" "") }
    pipeline :=
      { pipeline with agentTimeout := .ofSeconds agentTimeout }.withQueueSize queueSize }

end Config

end OfferDispatch
