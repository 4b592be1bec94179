import OfferDispatch.Tracking.Status
import OfferDispatch.Worker.Request

/-!
# Tracking tasks

Every launched worker is live from its launch to its end, and what is left of it afterwards is a
record of how it ended. A status moves a live task forward or is rejected; the first one that ends
the task makes the record, and later ones change nothing. The host is told once that its worker
runs, and once that it has ended.
-/

namespace OfferDispatch

/-- A task that was launched and has not ended. -/
structure LiveTask (κ : Type) where
  offer : OfferId
  agent : AgentId
  request : Request κ
  state : TaskState
  /-- The host has been told that the worker runs. -/
  announced : Bool
  deriving Inhabited

namespace LiveTask

variable {κ : Type}

def launched (offer : OfferId) (agent : AgentId) (request : Request κ) : LiveTask κ :=
  ⟨offer, agent, request, .staging, false⟩

def id (t : LiveTask κ) : TaskId := t.request.name

def notice (t : LiveTask κ) (kind : NoticeKind) : Notice κ :=
  ⟨kind, ⟨t.id, some t.agent⟩, t.request.callback⟩

end LiveTask

structure Ending where
  state : TaskState
  message : Option String
  deriving DecidableEq, Repr, Inhabited

inductive StatusOutcome
  | updated (state : TaskState)
  | terminal (state : TaskState)
  | rejected
  deriving DecidableEq, Repr, Inhabited

/-- The live tasks in the order of their launch, and how the others ended. -/
structure Tracker (κ : Type) where
  live : List (LiveTask κ)
  retired : List (TaskId × Ending)
  deriving Inhabited

structure StatusEffect (κ : Type) where
  outcome : StatusOutcome
  notices : List (Notice κ)
  tracker : Tracker κ

namespace Tracker

variable {κ : Type}

def empty : Tracker κ := ⟨[], []⟩

def find? (t : Tracker κ) (task : TaskId) : Option (LiveTask κ) :=
  t.live.find? fun l => l.id == task

def contains (t : Tracker κ) (task : TaskId) : Bool := t.live.any fun l => l.id == task

def ending? (t : Tracker κ) (task : TaskId) : Option Ending := t.retired.lookup task

def isKnown (t : Tracker κ) (task : TaskId) : Bool := t.contains task || (t.ending? task).isSome

/-- The state of a live task, or the one in which a task ended. -/
def state? (t : Tracker κ) (task : TaskId) : Option TaskState :=
  match t.find? task with
  | some l => some l.state
  | none => (t.ending? task).map (·.state)

def size (t : Tracker κ) : Nat := t.live.length

/-- Begins to track a task, in place of a live one of its name. -/
def insert (t : Tracker κ) (task : LiveTask κ) : Tracker κ :=
  { t with live := t.live.filter (fun l => l.id != task.id) ++ [task] }

def replace (t : Tracker κ) (task : LiveTask κ) : Tracker κ :=
  { t with live := t.live.map fun l => if l.id == task.id then task else l }

/-- Records how a task ended. -/
def record (retired : List (TaskId × Ending)) (task : TaskId) (ending : Ending) :
    List (TaskId × Ending) :=
  retired.filter (fun r => r.1 != task) ++ [(task, ending)]

def retire (t : Tracker κ) (task : TaskId) (ending : Ending) : Tracker κ :=
  ⟨t.live.filter fun l => l.id != task, record t.retired task ending⟩

/-- What the end of a task is for its host. -/
def endKind (state : TaskState) : NoticeKind :=
  if state = .finished then .finished else .failed

/-- A status for a live task that does not move it back. -/
def advance (t : Tracker κ) (task : LiveTask κ) (status : TaskStatus) : StatusEffect κ :=
  if status.state.isTerminal then
    ⟨.terminal status.state, [task.notice (endKind status.state)],
      t.retire task.id ⟨status.state, status.message⟩⟩
  else if status.state = .running ∧ task.announced = false then
    ⟨.updated status.state, [task.notice .running],
      t.replace { task with state := status.state, announced := true }⟩
  else ⟨.updated status.state, [], t.replace { task with state := status.state }⟩

/-- Applies a status; nothing comes of one for a task that is neither live nor ended. -/
def onStatus? (t : Tracker κ) (status : TaskStatus) : Option (StatusEffect κ) :=
  match t.find? status.task with
  | some task =>
    if status.state.rank < task.state.rank then some ⟨.rejected, [], t⟩
    else some (t.advance task status)
  | none => (t.ending? status.task).map fun _ => ⟨.rejected, [], t⟩

/-- How a task ends that is given up because its agent must be gone. -/
def lostEnding (task : LiveTask κ) : Ending :=
  ⟨.lost, some s!"no worker nodes left while {task.state.text}"⟩

/-- What hosts are told when all live tasks are given up. Here and in `clear` the tasks come in the
order of launch. This is a choice: they are all given up at once, and which of them comes first is
promised to nobody. -/
def clearNotices (t : Tracker κ) : List (Notice κ) := t.live.map fun l => l.notice .failed

/-- Gives up all live tasks, in the order of launch, as `clearNotices` says. -/
def clear (t : Tracker κ) : Tracker κ :=
  ⟨[], t.live.foldl (fun retired l => record retired l.id (lostEnding l)) t.retired⟩

/-- Forgets how tasks ended. -/
def clearRetired (t : Tracker κ) : Tracker κ := { t with retired := [] }

end Tracker

end OfferDispatch
