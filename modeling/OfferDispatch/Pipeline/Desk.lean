import OfferDispatch.Online.Watch
import OfferDispatch.Pipeline.Basic
import OfferDispatch.Pipeline.Flow

/-!
# A pipeline in the course of time

A desk is a pipeline at work, in a time that passes only when it is let pass. Time stands still as
long as anything can be done: the commands that wait are handled, then the workers whose watches are
due are looked at, and a worker that has not come online in time is cancelled. Then time moves on to
the next timer. What is due at the very instant up to which time is let pass waits for the next
time.

Events are handed to a handler, which may be one that breaks down after a number of them; those that
follow are lost.
-/

namespace OfferDispatch

/-- Something that a flow without a scheduler has done. -/
inductive FlowEntry
  | handling (c : Command)
  /-- The flow has been given up. -/
  | dropped
  deriving Inhabited

structure Desk (δ κ : Type) where
  settings : PipelineSettings
  scheduler : Scheduler δ (Listener κ)
  /-- The date, as far as maintenance is concerned. -/
  date : Instant
  /-- How many worker nodes the host has, with the driver in a given state. -/
  nodes : δ → Nat
  pipeline : Pipeline
  flow : Flow
  /-- How many events the handler takes before it breaks down, if it does. -/
  patience : Option Nat := none
  /-- The current millisecond. -/
  clock : Nat := 0
  watches : List (TaskId × Watch) := []
  /-- Events that have not been handed over. -/
  outbox : List StateEvent := []
  /-- Events that the handler took. -/
  heard : List StateEvent := []
  /-- What hosts were told. -/
  told : List (Notice κ) := []
  journal : List FlowEntry := []

namespace Desk

variable {δ κ : Type}

/-- What the scheduler reads of the world around it. -/
def surroundings (d : Desk δ κ) : Surroundings := ⟨d.date, d.nodes d.scheduler.session.link.driver⟩

def publish (d : Desk δ κ) (events : List StateEvent) : Desk δ κ :=
  { d with outbox := d.outbox ++ events }

/-- Goes on from a run of the scheduler. -/
def adopt (d : Desk δ κ) (run : Run δ (Listener κ)) : Desk δ κ :=
  { d with scheduler := run.scheduler, told := d.told ++ toHosts run.told }

/-- Hands the events over. -/
def deliver (d : Desk δ κ) : Desk δ κ :=
  match d.patience with
  | none => { d with heard := d.heard ++ d.outbox, outbox := [] }
  | some n => { d with
      heard := d.heard ++ d.outbox.take n
      patience := some (n - d.outbox.length)
      outbox := [] }

def close (d : Desk δ κ) : Desk δ κ :=
  { d with
    pipeline := d.pipeline.close
    journal := if d.flow = .scheduler then d.journal else d.journal ++ [.dropped] }

variable [ClusterDriver δ]

def run (d : Desk δ κ) (o : Operation (Listener κ)) : Desk δ κ × Option Reply :=
  let run := d.scheduler.run d.surroundings o
  ((d.adopt run).publish (streamed run.told), run.reply)

/-- The processing loops of the scheduler go on as long as one of them has something to do, but for
no more than a number of turns. -/
def takeTurns : Nat → Desk δ κ → Desk δ κ
  | 0, d => d
  | fuel + 1, d =>
    match d.scheduler.busyLoop? with
    | some generation => takeTurns fuel (d.run (.turn generation)).1
    | none => d

/-! ## Watches -/

/-- Attends to a watch. It is kept only if there is more to be done. -/
def attend (d : Desk δ κ) (worker : TaskId) (w : Watch) : Desk δ κ :=
  let keep (w : Watch) : Desk δ κ := { d with watches := d.watches ++ [(worker, w)] }
  let expire : Desk δ κ := (d.run (.cancel worker)).1
  if w.looksAt ≤ d.clock ∧ w.looksAt ≤ w.endsAt then
    match d.scheduler.readiness worker with
    | .pending => if w.endsAt ≤ d.clock then expire else keep (w.looked d.clock)
    | .ready | .failed _ => d
  else if w.endsAt ≤ d.clock then expire
  else keep w

def attendAll (d : Desk δ κ) : Desk δ κ :=
  d.watches.foldl (fun d entry => d.attend entry.1 entry.2) { d with watches := [] }

def watch (d : Desk δ κ) (worker : TaskId) : Desk δ κ :=
  match d.scheduler.await d.clock worker d.settings.pollInterval d.settings.agentTimeout with
  | .ok watch => d.attend worker watch
  | .error _ => d

/-! ## Commands -/

def handle (d : Desk δ κ) (c : Command) : Desk δ κ :=
  let handled := d.scheduler.handle d.surroundings c
  let d := (d.adopt handled.run).publish handled.events
  let d := { d with pipeline := d.pipeline.finish }
  if handled.watched then d.watch c.target else d

/-- Goes on with the command that is being handled. -/
def proceed (d : Desk δ κ) (c : Command) : Desk δ κ :=
  match d.flow.attempt? c with
  | some (events, flow) => { d with flow := flow, pipeline := d.pipeline.finish }.publish events
  | none => d

/-- Handles a command that was taken. -/
def begin (d : Desk δ κ) (c : Command) : Desk δ κ :=
  if d.flow = .scheduler then d.handle c
  else
    let d : Desk δ κ := { d with journal := d.journal ++ [.handling c] }
    d.proceed c

/-- Handles commands as long as it can, but no more than a number of them. -/
def work : Nat → Desk δ κ → Desk δ κ
  | 0, d => d
  | fuel + 1, d =>
    if d.pipeline.closed then d
    else if d.pipeline.mustStop then d.close
    else match d.pipeline.current with
      | some c =>
        let d := d.proceed c
        if d.pipeline.current.isSome then d else work fuel d
      | none => match d.pipeline.take? with
        | some (c, pipeline) => work fuel ({ d with pipeline := pipeline }.begin c)
        | none => d

/-! ## Time -/

/-- Does what can be done at this instant, apart from handing over events. -/
def settle (d : Desk δ κ) : Desk δ κ := (work (d.pipeline.waiting.length + 2) d).attendAll

/-- The millisecond of the next timer. -/
def nextAt (d : Desk δ κ) : Option Nat := (d.watches.map fun entry => entry.2.nextAt).min?

/-- What happens at an instant besides the work of a desk. -/
structure Backdrop (δ κ : Type) where
  /-- Takes note of the time. -/
  tick : Desk δ κ → Desk δ κ
  act : Desk δ κ → Desk δ κ
  /-- The millisecond in which something is due next. -/
  nextAt : Desk δ κ → Option Nat

def Backdrop.still : Backdrop δ κ := ⟨id, id, fun _ => none⟩

def moveTo (b : Backdrop δ κ) (d : Desk δ κ) (clock : Nat) : Desk δ κ :=
  b.tick { d with clock := clock }

/-- Everything that can happen at this instant. -/
def instant (b : Backdrop δ κ) (d : Desk δ κ) : Desk δ κ := (b.act d.settle).deliver

/-- The next millisecond after this one in which something is due. -/
def nextInstant (b : Backdrop δ κ) (d : Desk δ κ) : Option Nat :=
  ((d.nextAt.toList ++ (b.nextAt d).toList).map fun t => max t (d.clock + 1)).min?

/-- Lets time pass up to a millisecond, or until the desk is as it should be. -/
def passUntil (b : Backdrop δ κ) (stop : Desk δ κ → Bool) (target : Nat) :
    Nat → Desk δ κ → Desk δ κ
  | 0, d => d
  | fuel + 1, d =>
    let d := d.instant b
    if stop d then d
    else match d.nextInstant b with
      | some next =>
        if next < target then passUntil b stop target fuel (d.moveTo b next)
        else d.moveTo b target
      | none => d.moveTo b target

def advance (b : Backdrop δ κ) (d : Desk δ κ) (millis : Nat) : Desk δ κ :=
  if millis = 0 then d else d.passUntil b (fun _ => false) (d.clock + millis) millis

/-- Lets time pass until the pipeline has stopped, or a number of milliseconds is over. -/
def awaitClosed (b : Backdrop δ κ) (d : Desk δ κ) (millis : Nat) : Desk δ κ :=
  if d.pipeline.closed ∨ millis = 0 then d
  else d.passUntil b (fun d => d.pipeline.closed) (d.clock + millis) millis

end Desk

end OfferDispatch
