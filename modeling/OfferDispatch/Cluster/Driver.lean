import OfferDispatch.Cluster.Framework
import OfferDispatch.Error
import OfferDispatch.Launch.Task

/-!
# Talking to the cluster

The cluster is spoken to in calls, each of which succeeds or is refused. Whoever answers them keeps
a state of its own, so that the same call may be answered one way now and another way later. A link
to a driver remembers every call that was made and how it was answered, and the pauses in between.
-/

namespace OfferDispatch

inductive Call
  | register (info : FrameworkInfo)
  | launch (offer : OfferId) (task : Task Float)
  | kill (task : TaskId)
  /-- The offer is not wanted, nor its resources for some time. -/
  | decline (offer : OfferId) (refuse : Duration)
  /-- Offers are wanted again, declined ones included. -/
  | revive
  | stop
  deriving Repr, Inhabited

namespace Call

def name : Call → String
  | register _ => "register"
  | launch .. => "launch"
  | kill _ => "kill"
  | decline .. => "decline"
  | revive => "revive"
  | stop => "stop"

end Call

abbrev Answer := Except DriverError Unit

/-- Those who answer calls. -/
class ClusterDriver (δ : Type) where
  answer : Call → δ → Answer × δ

/-- What happened on a link. -/
inductive Exchange
  | call (c : Call) (answer : Answer)
  /-- A wait after a failed registration, the first of which has number zero. -/
  | pause (attempt : Nat)
  deriving Repr

/-- A driver, and what has happened on the way to it, the oldest first. -/
structure Link (δ : Type) where
  driver : δ
  log : List Exchange

namespace Link

variable {δ : Type}

def pause (l : Link δ) (attempt : Nat) : Link δ := { l with log := l.log ++ [.pause attempt] }

@[simp] theorem log_pause (l : Link δ) (attempt : Nat) :
    (l.pause attempt).log = l.log ++ [.pause attempt] := rfl

variable [ClusterDriver δ]

def call (l : Link δ) (c : Call) : Answer × Link δ :=
  let answered := ClusterDriver.answer c l.driver
  (answered.1, ⟨answered.2, l.log ++ [.call c answered.1]⟩)

@[simp] theorem log_call (l : Link δ) (c : Call) :
    (l.call c).2.log = l.log ++ [.call c (l.call c).1] := rfl

end Link

end OfferDispatch
