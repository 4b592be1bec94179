import OfferDispatch.Decimal.Layout
import OfferDispatch.Id.Name
import OfferDispatch.Time.Duration

/-!
# What can go wrong

Causes of failure, and each of them in words.
-/

namespace OfferDispatch

structure DriverError where
  message : String
  deriving DecidableEq, Repr, Inhabited

/-- Why a worker cannot be launched on any offer. -/
inductive SpecFault
  /-- An amount of cpus that is negative, infinite or not a number. -/
  | cpus (amount : Float)
  /-- A container asks for a program of its own but does not name one. -/
  | blankShell
  deriving Repr

def SpecFault.message : SpecFault → String
  | cpus amount => s!"invalid cpus {Layout.plain.text amount}"
  | blankShell => "custom shell is blank"

/-- Why an operation of the scheduler failed. -/
inductive SchedulerError
  | unknownTask (task : TaskId)
  | duplicateWorker (worker : TaskId)
  | invalidSpec (worker : TaskId) (fault : SpecFault)
  | driver (error : DriverError)
  | registrationFailed (attempts : Nat) (last : DriverError)
  deriving Repr

namespace SchedulerError

def message : SchedulerError → String
  | unknownTask task => s!"received status update for unknown task {task.text}"
  | duplicateWorker worker =>
    s!"worker {worker.text} is already pending, running or ended in this session"
  | invalidSpec worker fault => s!"invalid launch spec for {worker.text}: {fault.message}"
  | driver error => s!"cluster driver error: {error.message}"
  | registrationFailed attempts last =>
    s!"framework registration failed after {attempts} attempts: {last.message}"

/-- Must the caller give up the session? -/
def isFatal : SchedulerError → Bool
  | unknownTask _ => true
  | _ => false

end SchedulerError

/-- Why a command was not taken in. -/
inductive SubmitFault
  /-- The queue is full. -/
  | dropped
  /-- The pipeline has stopped. -/
  | closed
  deriving DecidableEq, Repr

structure SubmitError where
  fault : SubmitFault
  operation : String
  target : TaskId
  deriving DecidableEq, Repr

def SubmitError.message (e : SubmitError) : String :=
  match e.fault with
  | .dropped => s!"{e.operation} command for {e.target.text} was dropped."
  | .closed => s!"{e.operation} command for {e.target.text} failed: session closed"

/-- Why waiting for a worker ended without it. -/
inductive WaitError
  | timeout (limit : Duration)
  /-- The worker will never come online. -/
  | terminal (reason : String)
  | unknownTask (worker : TaskId)
  deriving DecidableEq, Repr

def WaitError.message : WaitError → String
  | timeout limit => s!"timed out after {limit.text} waiting for worker to come online"
  | terminal reason => reason
  | unknownTask worker => s!"worker {worker.text} is not known to the scheduler"

end OfferDispatch
