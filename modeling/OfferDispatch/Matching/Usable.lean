import OfferDispatch.Offer.Basic

/-!
# What an offer holds for a role

Of the resources that a role can use, the last one of a name counts if it is of the right kind; one
of the wrong kind is passed over. Resources of other names do not matter for matching.
-/

namespace OfferDispatch

/-- The resources that matching looks at. -/
structure Usable (α : Type) where
  cpus : α
  mem : α
  ports : Option (List PortRange)
  deriving Repr

namespace Usable

variable {α : Type}

def none [Amount α] : Usable α := ⟨Amount.missing, Amount.missing, Option.none⟩

/-- Takes another resource into account. -/
def add (u : Usable α) (r : Resource α) : Usable α :=
  match r.value with
  | .scalar amount =>
    if r.name = ResourceName.cpus then { u with cpus := amount }
    else if r.name = ResourceName.mem then { u with mem := amount }
    else u
  | .ranges ranges => if r.name = ResourceName.ports then { u with ports := some ranges } else u
  | .set _ => u

end Usable

namespace Offer

variable {α : Type}

/-- What the offer holds for a role. -/
def holds [Amount α] (o : Offer α) (role : String) : Usable α :=
  (o.usable role).foldl Usable.add Usable.none

/-- The role of the last resource named for ports, whatever its kind. -/
def portRole (o : Offer α) : String :=
  match o.resources.reverse.find? (fun r => r.name == ResourceName.ports) with
  | some r => r.role
  | none => anyRole

end Offer

end OfferDispatch
