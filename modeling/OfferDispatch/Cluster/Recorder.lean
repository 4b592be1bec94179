import OfferDispatch.Cluster.Driver

/-!
# A driver that records

For trying out a scheduler without a cluster: every call is recorded and succeeds, unless the driver
has been told to refuse it.
-/

namespace OfferDispatch

/-- A driver that records its calls, the oldest first. -/
structure Recorder where
  calls : List Call := []
  /-- Are launches refused? -/
  failLaunches : Bool := false
  /-- How many registrations are still refused. -/
  failingRegistrations : Nat := 0
  /-- Names of calls that are refused, and of tasks (after `launch:`) whose launch is. -/
  faults : List String := []
  deriving Repr, Inhabited

namespace Recorder

/-- The refusal of a call because of the state the driver began with. -/
def refusal? (r : Recorder) : Call → Option String
  | .register _ => if r.failingRegistrations = 0 then none else some "mock registration failure"
  | .launch .. => if r.failLaunches then some "mock launch failure" else none
  | _ => none

def faultNames : Call → List String
  | .launch offer task => [(Call.launch offer task).name, "launch:" ++ task.id.text]
  | c => [c.name]

/-- The refusal of a call because of a fault. -/
def fault? (r : Recorder) (c : Call) : Option String :=
  if (faultNames c).any r.faults.contains then some s!"injected {c.name} failure" else none

/-- Records a call. A registration uses up one of those that are refused. -/
def record (r : Recorder) (c : Call) : Recorder :=
  { r with
    calls := r.calls ++ [c]
    failingRegistrations :=
      match c with
      | .register _ => r.failingRegistrations - 1
      | _ => r.failingRegistrations }

instance : ClusterDriver Recorder where
  answer c r :=
    match (r.refusal? c).or (r.fault? c) with
    | some message => (.error ⟨message⟩, r.record c)
    | none => (.ok (), r.record c)

def launched (r : Recorder) : List (Task Float) :=
  r.calls.filterMap fun
    | .launch _ task => some task
    | _ => none

def declined (r : Recorder) : List (OfferId × Duration) :=
  r.calls.filterMap fun
    | .decline offer refuse => some (offer, refuse)
    | _ => none

def killed (r : Recorder) : List TaskId :=
  r.calls.filterMap fun
    | .kill task => some task
    | _ => none

end Recorder

end OfferDispatch
