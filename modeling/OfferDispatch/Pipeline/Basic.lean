import OfferDispatch.Config.Settings
import OfferDispatch.Error
import OfferDispatch.Pipeline.Command

/-!
# The command pipeline

Commands wait in a bounded queue and are handled one at a time, in the order in which they were
submitted. When the queue is full, a command is refused on the spot. The pipeline stops when it is
told to, or when nobody can submit commands any more; what waits is then discarded, and what is
being handled is abandoned.
-/

namespace OfferDispatch

/-- A queue of commands and the one that is being handled. -/
structure Pipeline where
  capacity : Nat
  waiting : List Command := []
  current : Option Command := none
  /-- How many can submit commands. -/
  handles : Nat := 1
  /-- The pipeline has been told to stop. -/
  shutdown : Bool := false
  /-- The pipeline has stopped. -/
  closed : Bool := false
  deriving Inhabited

namespace Pipeline

/-- A pipeline with one handle. The queue holds at least one command. -/
def new (settings : PipelineSettings) : Pipeline := { capacity := max settings.queueSize 1 }

def submit (p : Pipeline) (c : Command) : Except SubmitError Unit × Pipeline :=
  if p.closed then (.error ⟨.closed, c.operation, c.target⟩, p)
  else if p.capacity ≤ p.waiting.length then (.error ⟨.dropped, c.operation, c.target⟩, p)
  else (.ok (), { p with waiting := p.waiting ++ [c] })

/-- Tells the pipeline to stop. -/
def signal (p : Pipeline) : Pipeline := { p with shutdown := true }

def clone (p : Pipeline) : Pipeline := { p with handles := p.handles + 1 }

def dropHandle (p : Pipeline) : Pipeline := { p with handles := p.handles - 1 }

def mustStop (p : Pipeline) : Bool := p.shutdown || p.handles == 0

def close (p : Pipeline) : Pipeline := { p with waiting := [], current := none, closed := true }

/-- Takes the next command, if none is being handled. -/
def take? (p : Pipeline) : Option (Command × Pipeline) :=
  match p.current, p.waiting with
  | none, c :: rest => some (c, { p with current := some c, waiting := rest })
  | _, _ => none

def finish (p : Pipeline) : Pipeline := { p with current := none }

end Pipeline

end OfferDispatch
