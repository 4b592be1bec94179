import OfferDispatch.Amount
import OfferDispatch.Power

/-!
# Resources

What an agent has to offer, and what a task claims of it: a named amount, ranges of ports, or a set
of texts. A resource is reserved for a role, or open to all of them under the role `*`.
-/

namespace OfferDispatch

/-- The role under which a resource is open to every framework. -/
def anyRole : String := "*"

namespace ResourceName

def cpus : String := "cpus"

def mem : String := "mem"

def disk : String := "disk"

def ports : String := "ports"

end ResourceName

/-- The ports from the first to the last; none if the last comes before the first. -/
structure PortRange where
  first : UInt64
  last : UInt64
  deriving DecidableEq, Repr, Inhabited

namespace PortRange

def single (port : UInt64) : PortRange := ⟨port, port⟩

def size (r : PortRange) : Nat := r.last.toNat + 1 - r.first.toNat

/-- The first ports of the range, at most `count` of them. -/
def take (r : PortRange) (count : Nat) : List UInt64 :=
  (List.range (min count r.size)).map fun i => UInt64.ofNat (r.first.toNat + i)

instance : Membership UInt64 PortRange := ⟨fun r port => r.first ≤ port ∧ port ≤ r.last⟩

@[simp] theorem size_single (port : UInt64) : (single port).size = 1 := by
  simp [size, single]

@[simp] theorem length_take (r : PortRange) (count : Nat) :
    (r.take count).length = min count r.size := by
  simp [take]

end PortRange

/-- The first ports of ranges that are walked in order, at most `count` of them. -/
def findPorts : List PortRange → Nat → List UInt64
  | [], _ => []
  | r :: rest, count => r.take count ++ findPorts rest (count - r.size)

/-- How many ports one list has room for. A list has less than `2 ^ 63` bytes, and a port takes
eight of them. -/
def portRoom : Nat := (2 ^ 63 - 1) / 8

/-- The first ports of ranges, at most `count` of them. Room for all that are asked for is made
before the walk, however few there are, and where there is none nothing is answered. A worker lists
every port that it asks for, in more than eight bytes, so that for those there is room. -/
def findPorts? (ranges : List PortRange) (count : Nat) : Option (List UInt64) :=
  if count ≤ portRoom then some (findPorts ranges count) else none

inductive ResourceValue (α : Type)
  | scalar (amount : α)
  | ranges (ranges : List PortRange)
  | set (items : List String)
  deriving DecidableEq, Repr, Inhabited

structure Resource (α : Type) where
  name : String
  role : String
  value : ResourceValue α
  deriving DecidableEq, Repr, Inhabited

namespace Resource

variable {α : Type}

def isUsableBy (role : String) (r : Resource α) : Bool := r.role == role || r.role == anyRole

def amount? (r : Resource α) : Option α :=
  match r.value with
  | .scalar amount => some amount
  | _ => none

end Resource

end OfferDispatch
