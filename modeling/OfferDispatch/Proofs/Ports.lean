import Mathlib.Data.List.Nodup
import OfferDispatch.Launch.Launcher
import OfferDispatch.Proofs.Course
import OfferDispatch.Proofs.Suitability

/-!
# The ports of a task

Matching takes ports from the beginning of what an offer has, as many as a worker has dynamic
mappings, and building a task binds them to these mappings one after another, among the mappings
that name a host port themselves. The two parts meet in the number of ports: matching finds exactly
as many as building asks for, so no mapping is left out and no port is left over.

They do not meet in the ports themselves. Matching does not look at the host ports that are named,
so a task is given one of them twice if it is among the ports with which the offer begins.
-/

namespace OfferDispatch

variable {α : Type}

/-! ## The ports of an offer -/

namespace PortRange

/-- The ports of the range, in ascending order. -/
def ports (r : PortRange) : List UInt64 := r.take r.size

/-- The ranges have no port in common. -/
def Apart (r s : PortRange) : Prop := ∀ port ∈ r, port ∉ s

@[simp] theorem length_ports (r : PortRange) : r.ports.length = r.size := by
  rw [ports, length_take, Nat.min_self]

theorem take_eq (r : PortRange) (count : Nat) : r.take count = r.ports.take count := by
  rw [ports, take, take, ← List.map_take, List.take_range, Nat.min_self]

/-- No port of a range is too large. -/
theorem toNat_ofNat_of_lt_size {r : PortRange} {i : Nat} (h : i < r.size) :
    (UInt64.ofNat (r.first.toNat + i)).toNat = r.first.toNat + i := by
  have bound := r.last.toNat_lt_size
  rw [size] at h
  apply UInt64.toNat_ofNat_of_lt
  omega

theorem mem_ports_iff {r : PortRange} {port : UInt64} : port ∈ r.ports ↔ port ∈ r := by
  rw [ports, take, Nat.min_self, List.mem_map]
  constructor
  · rintro ⟨i, member, rfl⟩
    have small : i < r.size := List.mem_range.1 member
    have value := toNat_ofNat_of_lt_size small
    rw [size] at small
    constructor
    · rw [UInt64.le_iff_toNat_le, value]
      omega
    · rw [UInt64.le_iff_toNat_le, value]
      omega
  · rintro ⟨low, high⟩
    rw [UInt64.le_iff_toNat_le] at low high
    refine ⟨port.toNat - r.first.toNat, List.mem_range.2 ?_, ?_⟩
    · rw [size]
      omega
    · rw [Nat.add_sub_cancel' low, UInt64.ofNat_toNat]

theorem nodup_ports (r : PortRange) : r.ports.Nodup := by
  rw [ports, take, Nat.min_self]
  refine List.Nodup.map_on ?_ List.nodup_range
  intro i small j small' same
  have values := congrArg UInt64.toNat same
  rw [toNat_ofNat_of_lt_size (List.mem_range.1 small),
    toNat_ofNat_of_lt_size (List.mem_range.1 small')] at values
  omega

end PortRange

/-- What is found in ranges are the first ones of their ports. -/
theorem findPorts_eq_take (ranges : List PortRange) (count : Nat) :
    findPorts ranges count = (ranges.flatMap PortRange.ports).take count := by
  induction ranges generalizing count with
  | nil => simp [findPorts]
  | cons r rest ih =>
      rw [findPorts, r.take_eq, ih, List.flatMap_cons, List.take_append, r.length_ports]

namespace Offer

/-- The ports that a role can use of the offer, in the order in which they are given out. -/
def ports (o : Offer α) (role : String) : List UInt64 :=
  ((o.lastPorts? role).getD []).flatMap PortRange.ports

theorem length_ports (o : Offer α) (role : String) :
    (o.ports role).length = (((o.lastPorts? role).getD []).map PortRange.size).sum := by
  simp [ports, List.length_flatMap]

theorem nodup_ports {o : Offer α} {role : String}
    (apart : ((o.lastPorts? role).getD []).Pairwise PortRange.Apart) : (o.ports role).Nodup := by
  refine List.nodup_flatMap.2 ⟨fun r _ => r.nodup_ports, apart.imp ?_⟩
  intro r s apart port mine other
  exact apart port (PortRange.mem_ports_iff.1 mine) (PortRange.mem_ports_iff.1 other)

variable [Amount α]

/-- A worker is given the first ports of the offer, as many as it has dynamic mappings. -/
theorem allocation_eq_take (o : Offer α) (role : String) (w : WorkerSpec α) :
    o.allocation role w = (o.ports role).take w.dynamicPorts := by
  rw [allocation]
  split
  · rw [findPorts_eq_take, ports_holds, ports]
  · next unmapped =>
      have none : w.portMappings = [] := by
        simpa [WorkerSpec.hasPortMappings] using unmapped
      rw [WorkerSpec.dynamicPorts, none, List.countP_nil, List.take_zero]

/-- An offer that satisfies a worker has exactly one port for each of its dynamic mappings, and some
range of ports if there is any mapping. -/
theorem evaluate_ok_spec {o : Offer α} {role : String} {w : WorkerSpec α} {allocated : List UInt64}
    (matched : o.evaluate role w = .ok allocated) :
    allocated = (o.ports role).take w.dynamicPorts ∧ allocated.length = w.dynamicPorts ∧
      (w.portMappings ≠ [] → ∃ ranges, o.lastPorts? role = some ranges ∧ ranges ≠ []) := by
  obtain ⟨satisfied, rfl⟩ := evaluate_eq_ok_iff.1 matched
  have enough : o.lacksPorts role w = false := by
    rw [shortfalls] at satisfied
    simpa using (List.append_eq_nil_iff.1 satisfied).2
  have found (mapped : w.portMappings ≠ []) := ports_of_lacksPorts enough mapped
  refine ⟨o.allocation_eq_take role w, ?_, ?_⟩
  · rw [allocation_eq_take, List.length_take, length_ports]
    by_cases mapped : w.portMappings = []
    · rw [WorkerSpec.dynamicPorts, mapped, List.countP_nil, Nat.zero_min]
    · obtain ⟨ranges, last, -, most⟩ := found mapped
      rw [last, Option.getD_some, Nat.min_eq_left most]
  · intro mapped
    obtain ⟨ranges, last, some_, -⟩ := found mapped
    exact ⟨ranges, last, some_⟩

end Offer

/-! ## Binding -/

/-- Mappings are bound one by one: each keeps its container port and its protocol, a host port that
is named stays, and the dynamic mappings have the allocated ports in order, all of them. -/
structure Binds (mappings : List PortMapping) (allocated : List UInt64) (bound : List BoundPort) :
    Prop where
  kept : bound.map (fun b => (b.containerPort, b.protocol)) =
    mappings.map fun m => (m.containerPort, m.protocol)
  named : ∀ pair ∈ mappings.zip bound, ∀ port, pair.1.hostPort = some port →
    pair.2.hostPort = port.toUInt64
  dynamic : ((mappings.zip bound).filter fun pair => pair.1.isDynamic).map (·.2.hostPort) =
    allocated

@[simp] theorem bindPorts_named (containerPort port : UInt32) (protocol : String)
    (rest : List PortMapping) (allocated : List UInt64) :
    bindPorts (⟨containerPort, some port, protocol⟩ :: rest) allocated =
      ⟨containerPort, port.toUInt64, protocol⟩ :: bindPorts rest allocated := rfl

@[simp] theorem bindPorts_dynamic (containerPort : UInt32) (protocol : String)
    (rest : List PortMapping) (port : UInt64) (others : List UInt64) :
    bindPorts (⟨containerPort, none, protocol⟩ :: rest) (port :: others) =
      ⟨containerPort, port, protocol⟩ :: bindPorts rest others := rfl

/-- If there are as many ports as dynamic mappings, every mapping is bound. -/
theorem binds_bindPorts {mappings : List PortMapping} {allocated : List UInt64}
    (enough : allocated.length = mappings.countP (·.isDynamic)) :
    Binds mappings allocated (bindPorts mappings allocated) := by
  induction mappings generalizing allocated with
  | nil =>
      obtain rfl : allocated = [] := List.length_eq_zero_iff.1 enough
      exact ⟨rfl, nofun, rfl⟩
  | cons m rest ih =>
      obtain ⟨containerPort, _ | port, protocol⟩ := m
      · cases allocated with
        | nil => simp [PortMapping.isDynamic] at enough
        | cons port others =>
            have fewer : others.length = rest.countP (·.isDynamic) := by
              simpa [PortMapping.isDynamic] using enough
            obtain ⟨kept, named, dynamic⟩ := ih fewer
            refine ⟨?_, ?_, ?_⟩
            · simp [kept]
            · rw [bindPorts_dynamic, List.zip_cons_cons]
              exact List.forall_mem_cons.2 ⟨nofun, named⟩
            · exact congrArg (port :: ·) dynamic
      · have same : allocated.length = rest.countP (·.isDynamic) := by
          simpa [PortMapping.isDynamic] using enough
        obtain ⟨kept, named, dynamic⟩ := ih same
        refine ⟨?_, ?_, dynamic⟩
        · simp [kept]
        · rw [bindPorts_named, List.zip_cons_cons]
          refine List.forall_mem_cons.2 ⟨?_, named⟩
          rintro _ ⟨⟩
          rfl

/-- The host ports are those that are named and those that were allocated. -/
theorem perm_hostPort_bindPorts {mappings : List PortMapping} {allocated : List UInt64}
    (enough : allocated.length = mappings.countP (·.isDynamic)) :
    ((bindPorts mappings allocated).map (·.hostPort)).Perm
      ((mappings.filterMap (·.hostPort)).map UInt32.toUInt64 ++ allocated) := by
  induction mappings generalizing allocated with
  | nil =>
      obtain rfl : allocated = [] := List.length_eq_zero_iff.1 enough
      exact .refl _
  | cons m rest ih =>
      obtain ⟨containerPort, _ | port, protocol⟩ := m
      · cases allocated with
        | nil => simp [PortMapping.isDynamic] at enough
        | cons port others =>
            have fewer : others.length = rest.countP (·.isDynamic) := by
              simpa [PortMapping.isDynamic] using enough
            exact ((ih fewer).cons port).trans List.perm_middle.symm
      · have same : allocated.length = rest.countP (·.isDynamic) := by
          simpa [PortMapping.isDynamic] using enough
        exact (ih same).cons port.toUInt64

/-- Nothing is bound only if there is no mapping. -/
theorem bindPorts_eq_nil_iff {mappings : List PortMapping} {allocated : List UInt64}
    (enough : allocated.length = mappings.countP (·.isDynamic)) :
    bindPorts mappings allocated = [] ↔ mappings = [] := by
  have lengths := congrArg List.length (binds_bindPorts enough).kept
  rw [List.length_map, List.length_map] at lengths
  rw [← List.length_eq_zero_iff, lengths, List.length_eq_zero_iff]

/-! ## Tasks -/

namespace Task

/-- The ports of the host to which the container of the task is bound, in the order of its
mappings. -/
def hostPorts (t : Task α) : List UInt64 :=
  (t.container.elim [] (·.ports)).map (·.hostPort)

def portClaims (t : Task α) : List (Resource α) :=
  t.resources.filter (·.name == ResourceName.ports)

def claimedRanges (t : Task α) : List PortRange :=
  (t.portClaims.filterMap Resource.ports?).flatten

end Task

variable [Amount α]

/-- What is claimed entry by entry is the share of an entry. -/
theorem exists_of_mem_claims {resources : List (Resource α)} {needs : Needs α} {r : Resource α}
    (member : r ∈ claims resources needs) :
    ∃ entry ∈ resources, ∃ left taken, entry.share? left = some taken ∧
      r = { entry with value := .scalar taken } := by
  induction resources generalizing needs with
  | nil => cases member
  | cons first rest ih =>
      rw [claims] at member
      split at member
      · next taken shared =>
          obtain here | later := List.mem_cons.1 member
          · exact ⟨first, List.mem_cons_self, needs, taken, shared, here⟩
          · obtain ⟨entry, among, share⟩ := ih later
            exact ⟨entry, List.mem_cons_of_mem _ among, share⟩
      · obtain ⟨entry, among, share⟩ := ih member
        exact ⟨entry, List.mem_cons_of_mem _ among, share⟩

/-- Nothing but cpus, memory and disk is claimed entry by entry. -/
theorem name_ne_ports_of_mem_claims {resources : List (Resource α)} {needs : Needs α}
    {r : Resource α} (member : r ∈ claims resources needs) : r.name ≠ ResourceName.ports := by
  obtain ⟨entry, -, left, taken, shared, rfl⟩ := exists_of_mem_claims member
  intro named
  have unclaimed : left.find? entry.name = none := by
    rw [show entry.name = ResourceName.ports from named]
    rfl
  rw [Resource.share?, unclaimed] at shared
  split at shared
  · next impossible => cases impossible
  · cases shared

namespace Launcher

variable {l : Launcher} {o : Offer α} {w : WorkerSpec α} {allocated : List UInt64} {task : Task α}

/-- A task is built for every worker without a container. -/
theorem exists_build (l : Launcher) (o : Offer α) (allocated : List UInt64)
    (bare : w.container = none) : ∃ task, l.build o w allocated = .ok task := by
  rw [build, command, bare]
  exact ⟨_, rfl⟩

theorem container_of_build (built : l.build o w allocated = .ok task) :
    task.container = w.container.map fun c => container w.name c allocated := by
  rw [build] at built
  split at built
  · cases built
  · cases built
    rfl

theorem resources_of_build (built : l.build o w allocated = .ok task) :
    task.resources = claims (o.usable l.role) (.ofWorker w) ++
      claimPorts o.portRole (bindPorts w.portMappings allocated) := by
  rw [build] at built
  split at built
  · cases built
  · cases built
    rfl

/-- What a task claims of ports are those it is bound to, if any. -/
theorem portClaims_of_build (built : l.build o w allocated = .ok task) :
    task.portClaims = claimPorts o.portRole (bindPorts w.portMappings allocated) := by
  have scalars : (claims (o.usable l.role) (.ofWorker w)).filter
      (·.name == ResourceName.ports) = [] := by
    apply List.filter_eq_nil_iff.2
    intro r member named
    exact name_ne_ports_of_mem_claims member (beq_iff_eq.1 named)
  have all : (claimPorts (α := α) o.portRole (bindPorts w.portMappings allocated)).filter
      (·.name == ResourceName.ports) =
        claimPorts o.portRole (bindPorts w.portMappings allocated) := by
    rw [claimPorts]
    split
    · rfl
    · rfl
  rw [Task.portClaims, resources_of_build built, List.filter_append, scalars, all, List.nil_append]

theorem hostPorts_of_build (built : l.build o w allocated = .ok task) :
    task.hostPorts = (bindPorts w.portMappings allocated).map (·.hostPort) := by
  rw [Task.hostPorts, container_of_build built, WorkerSpec.portMappings]
  cases w.container with
  | none => rfl
  | some c => rfl

/-- If anything is bound, all of it is claimed in one resource. -/
theorem portClaims_eq_singleton (built : l.build o w allocated = .ok task)
    (bound : bindPorts w.portMappings allocated ≠ []) :
    task.portClaims =
      [⟨ResourceName.ports, o.portRole, .ranges (task.hostPorts.map .single)⟩] := by
  rw [portClaims_of_build built, hostPorts_of_build built, claimPorts, if_neg, List.map_map]
  · rfl
  · exact fun empty => bound (List.isEmpty_iff.1 empty)

/-- Each port that a task is bound to is claimed as a range of its own. -/
theorem claimedRanges_of_build (built : l.build o w allocated = .ok task) :
    task.claimedRanges = task.hostPorts.map .single := by
  rw [Task.claimedRanges, portClaims_of_build built, hostPorts_of_build built, claimPorts]
  cases bindPorts w.portMappings allocated with
  | nil => rfl
  | cons b rest =>
      show (b :: rest).map (fun b => PortRange.single b.hostPort) ++ [] = _
      rw [List.append_nil, List.map_map]
      rfl

end Launcher

/-- If an offer satisfies a worker, the task that is built for it has one port bound for each
mapping, in the same order: named host ports stay, and the dynamic mappings have the ports of the
allocation, all of them. The task claims these ports, one range each and in the same order, and
claims no ports only if there is nothing to bind. -/
theorem mappings_bound {role : String} {l : Launcher} {o : Offer α} {w : WorkerSpec α}
    {c : ContainerSpec} {allocated : List UInt64} {task : Task α} (inside : w.container = some c)
    (matched : o.evaluate role w = .ok allocated) (built : l.build o w allocated = .ok task) :
    ∃ container, task.container = some container ∧ Binds c.ports allocated container.ports ∧
      task.portClaims = if c.ports = [] then [] else
        [⟨ResourceName.ports, o.portRole, .ranges (container.ports.map (.single ·.hostPort))⟩] := by
  have mappings : w.portMappings = c.ports := by
    rw [WorkerSpec.portMappings, inside]
  have enough : allocated.length = c.ports.countP (·.isDynamic) := by
    rw [← mappings]
    exact (Offer.evaluate_ok_spec matched).2.1
  have binds := binds_bindPorts enough
  refine ⟨Launcher.container w.name c allocated, ?_, binds, ?_⟩
  · rw [Launcher.container_of_build built, inside]
    rfl
  · rw [Launcher.portClaims_of_build built, mappings, claimPorts]
    simp only [List.isEmpty_iff, bindPorts_eq_nil_iff enough]
    rfl

namespace Plain

def mapped (mappings : List PortMapping) : WorkerSpec Float :=
  { worker "w" with container := some ⟨"image", .bridge, false, false, [], mappings, [], [], none⟩ }

def richer (more : List (Resource Float)) : Offer Float :=
  { offer "o" with resources := (offer "o").resources ++ more }

def openPorts (role : String) (ranges : List PortRange) : Resource Float :=
  ⟨ResourceName.ports, role, .ranges ranges⟩

def launcher : Launcher := ⟨"http://controller/", anyRole⟩

/-- A mapping with a host port of its own between two dynamic ones. -/
def mixed : List PortMapping := [⟨8080, none, "tcp"⟩, ⟨9090, some 80, "udp"⟩, ⟨9091, none, "tcp"⟩]

/-- Ports in several ranges, one of which has none. -/
def scattered : Offer Float :=
  richer [openPorts anyRole [⟨31000, 31000⟩, ⟨5, 4⟩, ⟨31005, 31006⟩]]

/-- Two dynamic mappings share the ports of two ranges. -/
theorem mappings_bound_mixed :
    ∃ task container, launcher.build scattered (mapped mixed) [31000, 31005] = .ok task ∧
      task.container = some container ∧ Binds mixed [31000, 31005] container.ports ∧
        container.ports.map (·.hostPort) = [31000, 80, 31005] := by
  have matched : scattered.evaluate anyRole (mapped mixed) = .ok [31000, 31005] := by
    decide +kernel
  obtain ⟨task, built⟩ : ∃ task,
      launcher.build scattered (mapped mixed) [31000, 31005] = .ok task := ⟨_, rfl⟩
  obtain ⟨container, inside, binds, -⟩ := mappings_bound rfl matched built
  refine ⟨task, container, built, inside, binds, ?_⟩
  rw [Launcher.container_of_build built] at inside
  cases inside
  rfl

end Plain

/-- If the ranges that an offer has for a role are disjoint and the host ports that a worker names
are distinct, the task that is built for the worker is bound to distinct ports, and claims distinct
ones, exactly if no port that is named is among the first ports of the offer, as many as there are
dynamic mappings. -/
theorem host_ports_distinct_iff {role : String} {l : Launcher} {o : Offer α} {w : WorkerSpec α}
    {allocated : List UInt64} {task : Task α}
    (matched : o.evaluate role w = .ok allocated) (built : l.build o w allocated = .ok task)
    (apart : ((o.lastPorts? role).getD []).Pairwise PortRange.Apart)
    (named : (w.portMappings.filterMap (·.hostPort)).Nodup) :
    (task.hostPorts.Nodup ∧ task.claimedRanges.Nodup) ↔
      ∀ port ∈ w.portMappings.filterMap (·.hostPort),
        port.toUInt64 ∉ (o.ports role).take w.dynamicPorts := by
  obtain ⟨first, enough, -⟩ := Offer.evaluate_ok_spec matched
  have single : Function.Injective PortRange.single := fun _ _ same => congrArg PortRange.first same
  have claimed : task.claimedRanges.Nodup ↔ task.hostPorts.Nodup := by
    rw [Launcher.claimedRanges_of_build built, List.nodup_map_iff single]
  have fixed : ((w.portMappings.filterMap (·.hostPort)).map UInt32.toUInt64).Nodup := by
    apply named.map
    intro port other same
    exact UInt32.toUInt64_inj.1 same
  have given : allocated.Nodup := by
    rw [first]
    exact (Offer.nodup_ports apart).sublist (List.take_sublist _ _)
  rw [claimed, and_self, Launcher.hostPorts_of_build built,
    (perm_hostPort_bindPorts enough).nodup_iff, List.nodup_append, ← first]
  constructor
  · rintro ⟨-, -, across⟩ port member allocated
    exact across _ (List.mem_map_of_mem member) _ allocated rfl
  · intro across
    refine ⟨fixed, given, ?_⟩
    rintro _ mapped port member rfl
    obtain ⟨port, member', rfl⟩ := List.mem_map.1 mapped
    exact across port member' member

namespace Plain

/-- A mapping that names the first port of a range, and a dynamic one. -/
def clashing : List PortMapping := [⟨8080, some 31000, "tcp"⟩, ⟨9090, none, "tcp"⟩]

/-- The offer has enough ports to keep the two mappings apart, and yet they are bound to the same
one. -/
theorem host_ports_distinct_iff_clashing :
    ∃ task, launcher.build (richer [openPorts anyRole [⟨31000, 31010⟩]]) (mapped clashing) [31000] =
        .ok task ∧
      task.hostPorts = [31000, 31000] ∧ ¬(task.hostPorts.Nodup ∧ task.claimedRanges.Nodup) := by
  have matched : (richer [openPorts anyRole [⟨31000, 31010⟩]]).evaluate anyRole (mapped clashing) =
      .ok [31000] := by
    decide +kernel
  obtain ⟨task, built⟩ : ∃ task, launcher.build (richer [openPorts anyRole [⟨31000, 31010⟩]])
      (mapped clashing) [31000] = .ok task := ⟨_, rfl⟩
  refine ⟨task, built, Launcher.hostPorts_of_build built, ?_⟩
  apply (host_ports_distinct_iff matched built (List.pairwise_singleton _ _) (by decide)).not.2
  intro apart
  exact apart 31000 (by decide) (by decide +kernel)

end Plain

end OfferDispatch
