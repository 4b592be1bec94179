import OfferDispatch.Pipeline.Command
import OfferDispatch.Scheduler.Operation

/-!
# Handling commands

A launch is a request to the scheduler and a kill is a cancellation, so that the pipeline does what
a host would do by itself. Each launch is answered with one event, and so is each kill that the
scheduler did not refuse; what the scheduler has to tell of a worker from the pipeline goes into the
same stream.

To try out a pipeline there are other ways to handle commands, without a scheduler.
-/

namespace OfferDispatch

namespace Command

/-- What a command asks of the scheduler. -/
def request {κ : Type} : Command → Operation (Listener κ)
  | launch spec => .request spec .stream
  | kill worker => .cancel worker

/-- The answer to a command, by what the scheduler replied. -/
def answer (c : Command) (reply : Option Reply) : List StateEvent :=
  match c, reply with
  | launch spec, some (.refused _) => [.failed spec.name]
  | launch spec, _ => [.enqueued spec.name]
  | kill _, some (.refused _) => []
  | kill worker, _ => [.killRequested worker]

/-- Is there a worker to be watched after the command? -/
def isWatched : Command → Option Reply → Bool
  | launch _, some (.refused _) => false
  | launch _, _ => true
  | kill _, _ => false

end Command

structure Handled (δ κ : Type) where
  run : Run δ (Listener κ)
  /-- What was published, in order. -/
  events : List StateEvent
  /-- The worker is to be watched until it is online. -/
  watched : Bool

namespace Scheduler

variable {δ κ : Type} [ClusterDriver δ]

def handle (env : Surroundings) (s : Scheduler δ (Listener κ)) (c : Command) : Handled δ κ :=
  let run := s.run env c.request
  ⟨run, streamed run.told ++ c.answer run.reply, c.isWatched run.reply⟩

end Scheduler

/-- How commands are handled. -/
inductive Flow
  | scheduler
  /-- Each command is answered at once. -/
  | echo
  /-- Each command is answered as soon as it has a permit. -/
  | gate (permits : Nat)
  /-- No command is ever done. -/
  | stuck
  /-- Each command fails. -/
  | fail
  deriving DecidableEq, Repr, Inhabited

namespace Flow

/-- Gives permits to a gate. -/
def release (f : Flow) (permits : Nat) : Flow :=
  match f with
  | gate held => gate (held + permits)
  | f => f

/-- What comes of a command without a scheduler: what is published, and the flow afterwards; nothing
if the command has to wait. -/
def attempt? (f : Flow) (c : Command) : Option (List StateEvent × Flow) :=
  match f with
  | echo => some (c.answer none, echo)
  | gate (permits + 1) => some (c.answer none, gate permits)
  | fail => some ([], fail)
  | gate 0 | stuck | scheduler => none

end Flow

end OfferDispatch
