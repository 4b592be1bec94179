import OfferDispatch.Matching.Evaluate
import OfferDispatch.Proofs.Amounts
import OfferDispatch.Scheduler.State

/-!
# What it takes to suit a worker

Matching walks the resources of an offer once and compares what it has come by with what a worker
asks for. Here an offer is described without that walk: by the last resources of their kinds, by the
attributes, and by the number of its ports. An offer that satisfies a worker as the scheduler keeps
it, with the selector of its label, suits the worker as it was asked for.
-/

namespace OfferDispatch

variable {α : Type}

/-! ## The last resource of a kind -/

namespace Resource

def amountOf? (name : String) (r : Resource α) : Option α :=
  if r.name = name then r.amount? else none

def ports? (r : Resource α) : Option (List PortRange) :=
  match r.value with
  | .ranges ranges => if r.name = ResourceName.ports then some ranges else none
  | _ => none

end Resource

namespace Offer

/-- The amount of the last scalar resource of a name that a role can use. -/
def lastAmount? (o : Offer α) (role name : String) : Option α :=
  ((o.usable role).filterMap (Resource.amountOf? name)).getLast?

/-- The ranges of the last resource of ports that a role can use. -/
def lastPorts? (o : Offer α) (role : String) : Option (List PortRange) :=
  ((o.usable role).filterMap Resource.ports?).getLast?

end Offer

namespace Usable

/-- Where each resource of a kind replaces the one before, the last one counts. -/
theorem view_foldl_add {γ : Type} {view : Usable α → γ} {pick : Resource α → Option γ}
    (each : ∀ u r, view (u.add r) = (pick r).getD (view u)) (resources : List (Resource α))
    (u : Usable α) :
    view (resources.foldl Usable.add u) =
      (resources.filterMap pick).getLast?.getD (view u) := by
  induction resources generalizing u with
  | nil => rfl
  | cons r rest ih =>
      rw [List.foldl_cons, ih, each, List.filterMap_cons]
      cases pick r with
      | none => rfl
      | some _ => rw [List.getLast?_cons]; rfl

theorem cpus_add (u : Usable α) (r : Resource α) :
    (u.add r).cpus = (r.amountOf? ResourceName.cpus).getD u.cpus := by
  grind [Usable.add, Resource.amountOf?, Resource.amount?]

theorem mem_add (u : Usable α) (r : Resource α) :
    (u.add r).mem = (r.amountOf? ResourceName.mem).getD u.mem := by
  have other : ResourceName.mem ≠ ResourceName.cpus := by decide
  grind [Usable.add, Resource.amountOf?, Resource.amount?]

theorem ports_add (u : Usable α) (r : Resource α) :
    (u.add r).ports.getD [] = r.ports?.getD (u.ports.getD []) := by
  grind [Usable.add, Resource.ports?]

end Usable

namespace Offer

variable [Amount α]

theorem cpus_holds (o : Offer α) (role : String) :
    (o.holds role).cpus = (o.lastAmount? role ResourceName.cpus).getD Amount.missing :=
  Usable.view_foldl_add Usable.cpus_add (o.usable role) Usable.none

theorem mem_holds (o : Offer α) (role : String) :
    (o.holds role).mem = (o.lastAmount? role ResourceName.mem).getD Amount.missing :=
  Usable.view_foldl_add Usable.mem_add (o.usable role) Usable.none

theorem ports_holds (o : Offer α) (role : String) :
    (o.holds role).ports.getD [] = (o.lastPorts? role).getD [] := by
  let view (u : Usable α) : List PortRange := u.ports.getD []
  have each : ∀ (u : Usable α) (r : Resource α), view (u.add r) = r.ports?.getD (view u) :=
    Usable.ports_add
  exact Usable.view_foldl_add each (o.usable role) Usable.none

end Offer

/-- As many ports are found as are wanted, if there are so many. -/
@[simp] theorem length_findPorts (ranges : List PortRange) (count : Nat) :
    (findPorts ranges count).length = min count (ranges.map PortRange.size).sum := by
  induction ranges generalizing count with
  | nil => simp [findPorts]
  | cons r rest ih =>
      rw [findPorts, List.length_append, PortRange.length_take, ih, List.map_cons, List.sum_cons]
      omega

/-! ## Suiting a worker -/

/-- The attributes of the offer include all that a selector asks for. -/
def Offer.Carries (o : Offer α) (selector : Selector) : Prop :=
  ∀ pair ∈ selector.pairs.entries, ⟨pair.1, pair.2⟩ ∈ o.attributes

/-- The offer is fit for a worker that was asked for: its agent is up, it has the cpus and the
memory of the worker and the attributes of its selector, or of the selector of its label if it
brings none, and if any port has to be bound it offers ports, at least as many as are to be taken
from it. -/
structure Offer.Suits (settings : SchedulerSettings) (now : Instant) (o : Offer Float)
    (w : WorkerSpec Float) : Prop where
  up : ∀ m, o.maintenance = some m → m.covers now = false
  cpus : ∃ amount, o.lastAmount? settings.role ResourceName.cpus = some amount ∧ w.cpus ≤ amount
  mem : ∃ amount, o.lastAmount? settings.role ResourceName.mem = some amount ∧
    Amount.padded w.memory ≤ amount
  own : o.Carries w.selector
  labelled : w.selector.pairs.entries = [] →
    ∀ selector, settings.labels.find? w.label = some selector → o.Carries selector
  ports : w.portMappings ≠ [] → ∃ ranges, o.lastPorts? settings.role = some ranges ∧
    ranges ≠ [] ∧ w.dynamicPorts ≤ (ranges.map PortRange.size).sum

/-- A pair is unmet if the selector asks for it and the attributes do not include it. -/
theorem Selector.mem_unmet_iff {selector : Selector} {attributes : List Attribute}
    {pair : String × String} :
    pair ∈ selector.unmet attributes ↔
      pair ∈ selector.pairs.entries ∧ ⟨pair.1, pair.2⟩ ∉ attributes := by
  have carried : carries attributes pair = true ↔ ⟨pair.1, pair.2⟩ ∈ attributes := by
    rw [carries, List.any_eq_true]
    constructor
    · rintro ⟨⟨name, value⟩, offered, same⟩
      obtain ⟨rfl, rfl⟩ : name = pair.1 ∧ value = pair.2 := by simpa using same
      exact offered
    · intro offered
      exact ⟨_, offered, by simp⟩
  rw [unmet, List.mem_filter, ← carried, Bool.not_eq_true', Bool.not_eq_true]

namespace Offer

theorem up_of_isAvailable {o : Offer α} {now : Instant} (h : o.isAvailable now = true) :
    ∀ m, o.maintenance = some m → m.covers now = false := by
  intro m planned
  rw [isAvailable, planned] at h
  simpa using h

theorem carries_of_unmet {o : Offer α} {selector : Selector}
    (h : selector.unmet o.attributes = []) : o.Carries selector := by
  intro pair member
  by_contra absent
  have unmet : pair ∈ selector.unmet o.attributes := Selector.mem_unmet_iff.2 ⟨member, absent⟩
  rw [h] at unmet
  cases unmet

/-- Ports are lacking if some are to be bound, and there is no range of them or there are fewer than
dynamic mappings. -/
theorem lacksPorts_iff [Amount α] {o : Offer α} {role : String} {w : WorkerSpec α} :
    o.lacksPorts role w = true ↔ w.portMappings ≠ [] ∧
      ((o.lastPorts? role).getD [] = [] ∨
        (((o.lastPorts? role).getD []).map PortRange.size).sum < w.dynamicPorts) := by
  have has : w.hasPortMappings = true ↔ w.portMappings ≠ [] := by
    simp [WorkerSpec.hasPortMappings]
  rw [← has, lacksPorts, allocation, ports_holds, Bool.and_eq_true]
  apply and_congr_right
  intro mapped
  rw [if_pos mapped, length_findPorts, Bool.or_eq_true, List.isEmpty_iff, decide_eq_true_iff]
  apply or_congr_right
  omega

theorem ports_of_lacksPorts [Amount α] {o : Offer α} {role : String} {w : WorkerSpec α}
    (h : o.lacksPorts role w = false) (mapped : w.portMappings ≠ []) :
    ∃ ranges, o.lastPorts? role = some ranges ∧ ranges ≠ [] ∧
      w.dynamicPorts ≤ (ranges.map PortRange.size).sum := by
  rw [← Bool.not_eq_true, lacksPorts_iff] at h
  push Not at h
  obtain ⟨some_, enough⟩ := h mapped
  cases offered : o.lastPorts? role with
  | none => simp [offered] at some_
  | some ranges =>
      rw [offered] at some_ enough
      exact ⟨ranges, rfl, some_, enough⟩

end Offer

namespace Scheduler

/-- Nothing but the selector of a worker is set for its label. -/
theorem constrain_eq (settings : SchedulerSettings) (w : WorkerSpec Float) :
    ∃ selector, constrain settings w = { w with selector := selector } ∧
      (w.selector.pairs.entries ≠ [] → selector = w.selector) ∧
      ∀ other, w.selector.pairs.entries = [] → settings.labels.find? w.label = some other →
        selector = other := by
  rw [constrain, Selector.isEmpty, Table.isEmpty]
  split
  · next empty =>
      have none : w.selector.pairs.entries = [] := List.isEmpty_iff.1 empty
      split
      · next selector configured =>
          refine ⟨selector, rfl, fun some => absurd none some, ?_⟩
          intro other _ found
          exact Option.some.inj (configured.symm.trans found)
      · next unset =>
          refine ⟨w.selector, rfl, fun _ => rfl, ?_⟩
          intro other _ found
          cases unset.symm.trans found
  · next some =>
      refine ⟨w.selector, rfl, fun _ => rfl, ?_⟩
      intro other none _
      exact absurd (List.isEmpty_iff.2 none) some

end Scheduler

/-- An offer of an agent that is up suits the worker that was asked for, if it satisfies the worker
as the scheduler keeps it and the cpus of the worker are not negative. -/
theorem Offer.suits_of_satisfies {settings : SchedulerSettings} {now : Instant} {o : Offer Float}
    {w : WorkerSpec Float} (available : o.isAvailable now = true) (valid : 0.0 ≤ w.cpus)
    (h : o.satisfies settings.role (Scheduler.constrain settings w) = true) :
    o.Suits settings now w := by
  obtain ⟨selector, constrained, own, labelled⟩ := Scheduler.constrain_eq settings w
  rw [constrained, satisfies, List.isEmpty_iff, shortfalls] at h
  simp only [List.append_eq_nil_iff, List.map_eq_nil_iff] at h
  obtain ⟨⟨⟨cpus, mem⟩, unmet⟩, ports⟩ := h
  have carries : o.Carries selector := carries_of_unmet unmet
  refine ⟨up_of_isAvailable available, ?_, ?_, ?_, ?_, ?_⟩
  · refine exists_amount_of_le (not_le_missing_of_nonneg valid) ?_
    rw [← cpus_holds]
    simpa using cpus
  · refine exists_amount_of_le (not_padded_le_missing w.memory) ?_
    rw [← mem_holds]
    simpa using mem
  · intro pair member
    rw [← own (List.ne_nil_of_mem member)] at member
    exact carries pair member
  · intro none other configured
    exact labelled other none configured ▸ carries
  · have enough : o.lacksPorts settings.role { w with selector := selector } = false := by
      simpa using ports
    exact ports_of_lacksPorts enough

end OfferDispatch
