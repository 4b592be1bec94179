import OfferDispatch.Config.Settings
import OfferDispatch.Launch.Submission
import OfferDispatch.Offer.Buffer
import OfferDispatch.Session.Basic

/-!
# The scheduler

Requests of the host and offers of the cluster meet in the scheduler. It holds the requests that
wait, the tasks that live, the offers that have not been processed, and what it remembers to place
workers better: the agents that took a task last, and the labels that found no offer.
-/

namespace OfferDispatch

structure ProcessingLoop where
  /-- How often the session had been stopped when the loop began. -/
  generation : Nat
  /-- The scheduler counts on this loop and does not start another. -/
  held : Bool
  deriving DecidableEq, Repr, Inhabited

/-- A scheduler on a driver `δ` whose hosts are called back with `κ`. -/
structure Scheduler (δ κ : Type) where
  settings : SchedulerSettings
  session : Session δ
  requests : RequestQueue κ
  tracker : Tracker κ
  /-- Agents that took a task, the latest first. -/
  affinity : List AgentId
  /-- Labels of requests that the last offers left waiting, in ascending order. -/
  unmatched : List String
  buffer : OfferBuffer Float
  /-- What hosts are to be told once supervision is over. -/
  deferred : List (Notice κ)
  /-- How often the session has been stopped. -/
  generation : Nat
  loops : List ProcessingLoop

structure Surroundings where
  now : Instant
  /-- How many worker nodes the host has. -/
  nodes : Nat
  deriving DecidableEq, Repr, Inhabited

/-- Moves the first offer of an agent to the front. -/
def bringForward (agent : AgentId) (offers : List (Offer Float)) : List (Offer Float) :=
  match offers.find? fun o => o.agent == agent with
  | some o => o :: offers.eraseP fun o => o.agent == agent
  | none => offers

/-- Offers with one from each remembered agent in front, in the order of the agents. -/
def arrangeByAffinity (affinity : List AgentId) (offers : List (Offer Float)) :
    List (Offer Float) :=
  affinity.foldr bringForward offers

/-- Remembers an agent as the latest, and no more agents than there is room for. -/
def remember (size : Nat) (agent : AgentId) (affinity : List AgentId) : List AgentId :=
  if size = 0 then affinity else (agent :: affinity.filter (· != agent)).take size

/-- Adds a label to an ascending list without repetitions. -/
def addLabel (label : String) : List String → List String
  | [] => [label]
  | l :: rest =>
    if label < l then label :: l :: rest
    else if label = l then l :: rest
    else l :: addLabel label rest

theorem mem_addLabel {label l : String} {labels : List String} :
    l ∈ addLabel label labels ↔ l = label ∨ l ∈ labels := by
  induction labels with
  | nil => simp [addLabel]
  | cons first rest ih =>
    unfold addLabel
    split
    · simp
    split
    · next h => simp [h]
    · simp only [List.mem_cons, ih]
      constructor <;> (intro h; rcases h with h | h | h <;> simp [h])

namespace Scheduler

variable {δ κ : Type}

def new (settings : SchedulerSettings) (session : Session δ) : Scheduler δ κ where
  settings := settings
  session := session
  requests := .empty
  tracker := .empty
  affinity := []
  unmatched := []
  buffer := { capacity := settings.capacity }
  deferred := []
  generation := 0
  loops := []

def launcher (s : Scheduler δ κ) : Launcher := ⟨s.settings.controller, s.settings.role⟩

def pending (s : Scheduler δ κ) : Nat := s.requests.size

def active (s : Scheduler δ κ) : Nat := s.tracker.size

/-- Is a worker of this name waiting, live or ended? -/
def isTaken (s : Scheduler δ κ) (worker : TaskId) : Bool :=
  s.tracker.isKnown worker || s.requests.contains worker

/-- Is the session the one that a loop was started for? -/
def isCurrent (s : Scheduler δ κ) (generation : Nat) : Bool :=
  s.session.running && s.generation == generation

/-- A worker with the selector of its label, if it brings none. -/
def constrain (settings : SchedulerSettings) (w : WorkerSpec Float) : WorkerSpec Float :=
  if w.selector.isEmpty then
    match settings.labels.find? w.label with
    | some selector => { w with selector := selector }
    | none => w
  else w

/-- Counts on a loop to process offers: on the one that is held, or on a new one. -/
def ensureLoop (s : Scheduler δ κ) : Scheduler δ κ :=
  if s.loops.any (·.held) then s else { s with loops := s.loops ++ [⟨s.generation, true⟩] }

def endLoop (s : Scheduler δ κ) (generation : Nat) : Scheduler δ κ :=
  { s with loops := s.loops.filter fun l => l.generation != generation }

/-- The generation of the first loop that has something to do: to end because its session has, or to
place offers. -/
def busyLoop? (s : Scheduler δ κ) : Option Nat :=
  (s.loops.find? fun l => !s.isCurrent l.generation || !s.buffer.offers.isEmpty).map (·.generation)

variable [ClusterDriver δ]

/-- Stops the session. What is known of ended tasks belonged to it and is forgotten; requests keep
waiting. -/
def stop (s : Scheduler δ κ) : Scheduler δ κ :=
  { s with
    session := s.session.stop
    generation := s.generation + 1
    tracker := s.tracker.clearRetired
    unmatched := []
    loops := s.loops.map fun l => { l with held := false } }

end Scheduler

end OfferDispatch
