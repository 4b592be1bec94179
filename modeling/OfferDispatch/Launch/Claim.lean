import OfferDispatch.Launch.Task

/-!
# Claims

What a task claims of an offer. Scalar resources are claimed entry by entry, as much of each as is
there and still needed, under the role the entry is offered for. The ports of a container are bound
in the order of its mappings: a host port that is given stays, and each dynamic one takes the next
port of the allocation.
-/

namespace OfferDispatch

/-- How much is still needed of each scalar resource. -/
structure Needs (α : Type) where
  cpus : α
  mem : α
  disk : α
  deriving Repr

namespace Needs

variable {α : Type} [Amount α]

def ofWorker (w : WorkerSpec α) : Needs α := ⟨w.cpus, Amount.padded w.memory, w.disk⟩

/-- What is still needed of a resource; nothing for one that is not claimed. -/
def find? (n : Needs α) (name : String) : Option α :=
  if name = ResourceName.cpus then some n.cpus
  else if name = ResourceName.mem then some n.mem
  else if name = ResourceName.disk then some n.disk
  else none

/-- What is needed after some of a resource has been claimed. -/
def claim (n : Needs α) (name : String) (amount : α) : Needs α :=
  if name = ResourceName.cpus then { n with cpus := Amount.sub n.cpus amount }
  else if name = ResourceName.mem then { n with mem := Amount.sub n.mem amount }
  else if name = ResourceName.disk then { n with disk := Amount.sub n.disk amount }
  else n

end Needs

section

variable {α : Type} [Amount α]

/-- How much of a resource is to be claimed; nothing of one that is not needed. -/
def Resource.share? (r : Resource α) (needs : Needs α) : Option α :=
  match r.amount?, needs.find? r.name with
  | some available, some needed =>
    if Amount.le needed Amount.zero then none else some (Amount.least available needed)
  | _, _ => none

/-- The claims on resources that are gone through in order. -/
def claims : List (Resource α) → Needs α → List (Resource α)
  | [], _ => []
  | r :: rest, needs =>
    match r.share? needs with
    | some amount => { r with value := .scalar amount } :: claims rest (needs.claim r.name amount)
    | none => claims rest needs

end

/-- Binds the ports of a container. A dynamic mapping for which no allocated port is left is not
bound. -/
def bindPorts : List PortMapping → List UInt64 → List BoundPort
  | [], _ => []
  | m :: rest, allocated =>
    match m.hostPort, allocated with
    | some port, _ => ⟨m.containerPort, port.toUInt64, m.protocol⟩ :: bindPorts rest allocated
    | none, port :: others => ⟨m.containerPort, port, m.protocol⟩ :: bindPorts rest others
    | none, [] => bindPorts rest []

/-- The claim on bound ports, each as a range of its own; none if no port is bound. -/
def claimPorts {α : Type} (role : String) (bound : List BoundPort) : List (Resource α) :=
  if bound.isEmpty then []
  else [⟨ResourceName.ports, role, .ranges (bound.map fun b => .single b.hostPort)⟩]

end OfferDispatch
