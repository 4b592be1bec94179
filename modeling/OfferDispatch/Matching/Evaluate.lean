import OfferDispatch.Decimal.Layout
import OfferDispatch.Matching.Usable
import OfferDispatch.Worker.Spec

/-!
# Matching

An offer satisfies a worker when it holds enough cpus and padded memory, carries every attribute the
worker asks for, and has a port for each dynamic mapping. Otherwise every shortfall is told, in a
fixed order.
-/

namespace OfferDispatch

/-- What an offer lacks for a worker. -/
inductive Shortfall (α : Type)
  | cpus (requested offered : α)
  | mem (requested offered : α)
  | unmet (name value : String)
  | ports (requested available : Nat)
  deriving DecidableEq, Repr

namespace Shortfall

def message : Shortfall Float → String
  | cpus requested offered =>
    s!"cpus: requested {Layout.plain.text requested}, offered {Layout.plain.text offered}"
  | mem requested offered =>
    s!"mem: requested {Layout.plain.text requested}, offered {Layout.plain.text offered}"
  | unmet name value => s!"attribute: {name}={value} not offered"
  | ports requested available => s!"ports: requested {requested}, available {available}"

end Shortfall

namespace Offer

variable {α : Type} [Amount α]

/-- The host ports that the offer gives to dynamic mappings, in order; none without any mapping. -/
def allocation (o : Offer α) (role : String) (w : WorkerSpec α) : List UInt64 :=
  if w.hasPortMappings then findPorts ((o.holds role).ports.getD []) w.dynamicPorts else []

/-- Are there too few ports? A worker with mappings needs ports to be offered, even if it names
every host port itself. -/
def lacksPorts (o : Offer α) (role : String) (w : WorkerSpec α) : Bool :=
  w.hasPortMappings &&
    (((o.holds role).ports.getD []).isEmpty ||
      decide ((o.allocation role w).length < w.dynamicPorts))

/-- What the offer lacks: cpus, memory, attributes in the order of their names, ports. -/
def shortfalls (o : Offer α) (role : String) (w : WorkerSpec α) : List (Shortfall α) :=
  let held := o.holds role
  let memory : α := Amount.padded w.memory
  (if Amount.le w.cpus held.cpus then [] else [.cpus w.cpus held.cpus]) ++
    (if Amount.le memory held.mem then [] else [.mem memory held.mem]) ++
    (w.selector.unmet o.attributes).map (fun pair => .unmet pair.1 pair.2) ++
    (if o.lacksPorts role w then [.ports w.dynamicPorts (o.allocation role w).length] else [])

/-- The host ports for a worker that the offer satisfies, or all that it lacks. -/
def evaluate (o : Offer α) (role : String) (w : WorkerSpec α) :
    Except (List (Shortfall α)) (List UInt64) :=
  match o.shortfalls role w with
  | [] => .ok (o.allocation role w)
  | lacks => .error lacks

def satisfies (o : Offer α) (role : String) (w : WorkerSpec α) : Bool :=
  (o.shortfalls role w).isEmpty

theorem evaluate_eq_ok_iff {o : Offer α} {role : String} {w : WorkerSpec α} {ports : List UInt64} :
    o.evaluate role w = .ok ports ↔ o.shortfalls role w = [] ∧ ports = o.allocation role w := by
  unfold evaluate
  split
  · next h => simp [h, eq_comm]
  · next h => exact ⟨nofun, fun e => absurd e.1 h⟩

end Offer

end OfferDispatch
