import OfferDispatch.Decimal.Reading
import OfferDispatch.Document.Task
import OfferDispatch.Cluster.Recorder
import OfferDispatch.Config.Settings

/-!
# A short notation for scenarios

Scenarios are written as documents in which most things can be left out: what is left out has a
default. A field of the wrong kind counts as left out if it has a default, except for numbers.
-/

namespace OfferDispatch

inductive Flaw
  /-- Something is not as it must be. -/
  | malformed (what : String)
  | id (error : IdError)
  deriving DecidableEq, Repr

/-- What was read, or what is wrong with it. -/
abbrev Noted := Except Flaw

namespace Notation

variable {α : Type}

/-! ## Fields -/

/-- Something is not as it must be. -/
def flaw (what : String) : Noted α := .error (.malformed what)

/-- What was read, unless nothing was. -/
def require (what : String) : Option α → Noted α
  | some a => .ok a
  | none => flaw what

/-- A field; one that is missing counts as null. -/
def field (name : String) (j : Json) : Json := (j.field? name).getD .null

def text? (name : String) (j : Json) : Option String := Document.text? (field name j)

def textOr (name default : String) (j : Json) : String := (text? name j).getD default

def text (name : String) (j : Json) : Noted String := require name (text? name j)

def boolOr (name : String) (default : Bool) (j : Json) : Bool :=
  match field name j with
  | .bool b => b
  | _ => default

/-- The members of an array; anything else has none. -/
def items : Json → List Json
  | .arr items => items
  | _ => []

def list (name : String) (j : Json) : List Json := items (field name j)

/-- The texts among the members of a field. -/
def texts (name : String) (j : Json) : List String := (list name j).filterMap Document.text?

/-- What a field holds, or a default if it is missing. -/
def readOr (name : String) (default : α) (read : Json → Noted α) (j : Json) : Noted α :=
  match field name j with
  | .null => .ok default
  | value => read value

/-! ## Numbers, spans of time, pairs -/

def natOf (what : String) : Json → Noted Nat
  | .num (.int n) => if 0 ≤ n then .ok n.toNat else flaw what
  | _ => flaw what

def nat (name : String) (j : Json) : Noted Nat := natOf name (field name j)

def natOr (name : String) (default : Nat) (j : Json) : Noted Nat :=
  readOr name default (natOf name) j

/-- A number of 32 bits. -/
def wordOf (j : Json) : Noted UInt32 := require "u32" (Document.decode? j)

/-- A number of 64 bits. -/
def longOf (j : Json) : Noted UInt64 := require "u64" (Document.decode? j)

/-- A float, as a number or as a text that is read to the nearest float. -/
def floatOf (what : String) : Json → Noted Float
  | .num n => .ok n.toFloat
  | .str s => require what (Decimal.read? s)
  | _ => flaw what

def floatOr (name : String) (default : Float) (j : Json) : Noted Float :=
  readOr name default (floatOf name) j

/-- A span of time: milliseconds, or seconds and nanoseconds. -/
def durationOf (what : String) (j : Json) : Noted Duration :=
  match j with
  | .obj _ => do return ⟨(← nat "secs" j) * 1000000000 + (← natOr "nanos" 0 j)⟩
  | _ => (natOf what j).map .ofMillis

def durationOr (name : String) (default : Duration) (j : Json) : Noted Duration :=
  readOr name default (durationOf name) j

def instantOf (j : Json) : Noted Instant := require "time" (Document.decode? j)

def pairs (name : String) (j : Json) : Noted (List (String × String)) :=
  (list name j).mapM fun pair => require "pair" (Document.decode? pair)

/-! ## Ids -/

def idOf : Except IdError α → Noted α
  | .ok id => .ok id
  | .error e => .error (.id e)

def name {kind : Named} (key : String) (j : Json) : Noted (Name kind) := do
  idOf (Name.parse (← text key j))

def frameworkId (key : String) (j : Json) : Noted FrameworkId := do
  idOf (FrameworkId.parse (← text key j))

/-! ## Offers -/

/-- A range of ports, by its first and last or by its only one. -/
def rangeOf : Json → Noted PortRange
  | .arr [a] => do return .single (← longOf a)
  | .arr [a, b] => do return ⟨← longOf a, ← longOf b⟩
  | _ => flaw "range"

def resourceValueOf (j : Json) : Noted (ResourceValue Float) :=
  match j.field? "scalar", j.field? "ranges", j.field? "set" with
  | some v, _, _ => do return .scalar (← floatOf "scalar" v)
  | _, some v, _ => do return .ranges (← (items v).mapM rangeOf)
  | _, _, some _ => .ok (.set (texts "set" j))
  | _, _, _ => flaw "resource"

def resourceOf (j : Json) : Noted (Resource Float) := do
  return ⟨← text "name" j, textOr "role" anyRole j, ← resourceValueOf j⟩

/-- A maintenance, or none. -/
def maintenanceOf (j : Json) : Noted (Option Maintenance) :=
  match j with
  | .obj _ => do
    return some ⟨← instantOf (field "start" j), ← readOr "end" none (some <$> instantOf ·) j⟩
  | _ => .ok none

def offerOf (j : Json) : Noted (Offer Float) := do
  return {
    id := ← name "id" j
    agent := ← name "agent" j
    hostname := textOr "hostname" "" j
    resources := ← (list "resources" j).mapM resourceOf
    attributes := (← pairs "attributes" j).map fun p => ⟨p.1, p.2⟩
    maintenance := ← maintenanceOf (field "unavailability" j) }

def offers (j : Json) : Noted (List (Offer Float)) := (list "offers" j).mapM offerOf

/-! ## Workers -/

/-- What a name stands for, with a default. -/
def choice (key : String) (default : α) (read? : String → Option α) (j : Json) : Noted α :=
  match text? key j with
  | some s => require key (read? s)
  | none => .ok default

def portOf (j : Json) : Noted PortMapping := do
  return ⟨← wordOf (field "container" j), ← readOr "host" none (some <$> wordOf ·) j,
    textOr "protocol" "tcp" j⟩

def volumeOf (j : Json) : Noted Volume := do
  return ⟨← text "container_path" j, text? "host_path" j, boolOr "read_only" false j⟩

/-- A container, or none. -/
def containerOf (j : Json) : Noted (Option ContainerSpec) :=
  match j with
  | .obj _ => do
    return some {
      image := textOr "image" "img" j
      network := ← choice "network" .host Document.network? j
      privileged := boolOr "privileged" false j
      forcePull := boolOr "force_pull_image" false j
      parameters := ← pairs "parameters" j
      ports := ← (list "ports" j).mapM portOf
      volumes := ← (list "volumes" j).mapM volumeOf
      networks := texts "networks" j
      shell := text? "shell" j }
  | _ => .ok none

def fileOf (j : Json) : Noted FetchedFile := do
  return ⟨← text "value" j, boolOr "executable" false j, boolOr "extract" false j⟩

def specOf (j : Json) : Noted (WorkerSpec Float) := do
  return {
    name := ← name "name" j
    label := textOr "label" "" j
    cpus := ← floatOr "cpus" 1.0 j
    memory := ← readOr "memory" 512 wordOf j
    disk := ← floatOr "disk" 0.0 j
    selector := .ofPairs (← pairs "attributes" j)
    jvmArguments := textOr "jvm" "" j
    agentArguments := textOr "jnlp" "" j
    secret := text? "secret" j
    style := ← choice "style" .linux Document.style? j
    files := ← (list "uris" j).mapM fileOf
    container := ← containerOf (field "container" j) }

/-- The worker in a field of its own. -/
def spec (j : Json) : Noted (WorkerSpec Float) := specOf (field "spec" j)

/-! ## Statuses, frameworks, settings -/

def stateOf (j : Json) : Noted TaskState :=
  require "state" ((Document.text? j).bind TaskState.ofName?)

def statusOf (j : Json) : Noted TaskStatus := do
  return ⟨← name "task" j, ← stateOf (field "state" j), text? "message" j⟩

/-- A framework, which need not be known to the cluster yet. -/
def frameworkOf (j : Json) : Noted FrameworkInfo := do
  let id ← (text? "id" j).mapM fun s => idOf (FrameworkId.parse s)
  return ⟨textOr "name" "fleet" j, textOr "user" "" j, textOr "role" "*" j,
    textOr "principal" "fleet" j, id⟩

/-- A driver that records: one that fails launches, or some registrations, or has faults. -/
def recorderOf (j : Json) : Recorder :=
  let base : Recorder := { faults := texts "faults" j }
  match field "mock" j with
  | .str "failing" => { base with failLaunches := true }
  | .num (.int n) => { base with failingRegistrations := n.toNat }
  | _ => base

/-- Selectors of labels, written as text and then one by one. -/
def labelsOf (raw entries : String) (j : Json) : Noted LabelSelectors :=
  (list entries j).foldlM (fun labels entry => do
    return labels.insert (textOr "label" "" entry) (.ofPairs (← pairs "attributes" entry)))
    (LabelSelectors.read (textOr raw "" j))

def settingsOf (j : Json) : Noted SchedulerSettings := do
  let defaults : SchedulerSettings := {}
  return { defaults with
    role := textOr "role" defaults.role j
    controller := textOr "controller_url" defaults.controller j
    capacity := ← natOr "capacity" defaults.capacity j
    declineFor := ← durationOr "decline_offer" defaults.declineFor j
    multiThreaded := boolOr "multi_threaded" defaults.multiThreaded j
    onDemand := boolOr "on_demand" defaults.onDemand j
    affinitySize := ← natOr "affinity" defaults.affinitySize j
    labels := ← labelsOf "label_constraints" "label_selectors" j }

end Notation

end OfferDispatch
