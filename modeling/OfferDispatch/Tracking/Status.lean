import OfferDispatch.Id.Name

/-!
# Task states

What the cluster reports about a task. A task moves forward only: it is staged, started, runs, and
ends in one of five ways.
-/

namespace OfferDispatch

inductive TaskState
  | staging
  | starting
  | running
  | finished
  | failed
  | killed
  | lost
  | error
  deriving DecidableEq, Repr, Inhabited

namespace TaskState

def isTerminal : TaskState → Bool
  | staging | starting | running => false
  | finished | failed | killed | lost | error => true

/-- How far the task has come; all ends are equally far. -/
def rank : TaskState → Nat
  | staging => 0
  | starting => 1
  | running => 2
  | finished | failed | killed | lost | error => 3

def name : TaskState → String
  | staging => "STAGING"
  | starting => "STARTING"
  | running => "RUNNING"
  | finished => "FINISHED"
  | failed => "FAILED"
  | killed => "KILLED"
  | lost => "LOST"
  | error => "ERROR"

/-- The state as messages show it. -/
def text (s : TaskState) : String := "TASK_" ++ s.name

/-- All states in the order of their lifecycle. -/
def all : List TaskState :=
  [staging, starting, running, finished, failed, killed, lost, error]

def ofName? (name : String) : Option TaskState := all.find? fun s => s.name == name

theorem isTerminal_iff_rank {s : TaskState} : s.isTerminal = true ↔ s.rank = 3 := by
  cases s <;> decide

theorem rank_le (s : TaskState) : s.rank ≤ 3 := by
  cases s <;> decide

end TaskState

structure TaskStatus where
  task : TaskId
  state : TaskState
  message : Option String
  deriving DecidableEq, Repr, Inhabited

end OfferDispatch
