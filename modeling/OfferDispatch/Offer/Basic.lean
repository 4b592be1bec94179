import OfferDispatch.Id.Name
import OfferDispatch.Offer.Resource
import OfferDispatch.Time.Instant

/-!
# Offers

An agent offers what it has left, for a single task. An agent that is about to be taken down says
when, and is passed over while that lasts.
-/

namespace OfferDispatch

structure Attribute where
  name : String
  value : String
  deriving DecidableEq, Repr, Inhabited

/-- A time during which an agent is down, possibly without an end. -/
structure Maintenance where
  start : Instant
  stop : Option Instant
  deriving DecidableEq, Repr, Inhabited

namespace Maintenance

/-- Does the time include an instant? Its start does, its end does not. -/
def covers (m : Maintenance) (now : Instant) : Bool :=
  !now.before m.start && m.stop.all now.before

end Maintenance

structure Offer (α : Type) where
  id : OfferId
  agent : AgentId
  hostname : String
  resources : List (Resource α)
  attributes : List Attribute
  maintenance : Option Maintenance
  deriving DecidableEq, Repr, Inhabited

namespace Offer

variable {α : Type}

def isAvailable (o : Offer α) (now : Instant) : Bool :=
  !o.maintenance.any fun m => m.covers now

/-- The first resource of a name. -/
def resource? (o : Offer α) (name : String) : Option (Resource α) :=
  o.resources.find? fun r => r.name == name

/-- The resources that a framework of this role can use. -/
def usable (o : Offer α) (role : String) : List (Resource α) :=
  o.resources.filter (·.isUsableBy role)

end Offer

end OfferDispatch
