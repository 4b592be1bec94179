import OfferDispatch.Proofs.Ports

/-!
# The role under which ports are claimed

Matching takes ports from the last resource of ports that consists of ranges and that the framework
can use. Building a task claims them under the role of the last resource that is named for ports, be
it of another kind or reserved for others. So a claim on ports need not name a role under which they
are offered, and it is shown here when it does.
-/

namespace OfferDispatch

variable {α : Type}

namespace Offer

/-- The resources that are named for ports, of whatever role and kind. -/
def portEntries (o : Offer α) : List (Resource α) :=
  o.resources.filter (·.name == ResourceName.ports)

/-- The port is offered under the role. -/
def HasPort (o : Offer α) (role : String) (port : UInt64) : Prop :=
  ∃ r ∈ o.resources, r.role = role ∧
    ∃ ranges, r.ports? = some ranges ∧ ∃ range ∈ ranges, port ∈ range

/-- The claim is made under a role that the framework can use, and every port that is claimed is
offered under it. -/
def Backs (o : Offer α) (role : String) (claim : Resource α) : Prop :=
  claim.isUsableBy role = true ∧
    ∀ ranges, claim.ports? = some ranges → ∀ range ∈ ranges, ∀ port ∈ range,
      o.HasPort claim.role port

theorem portRole_of_getLast? {o : Offer α} {last : Resource α}
    (h : o.portEntries.getLast? = some last) : o.portRole = last.role := by
  rw [portEntries, List.getLast?_filter] at h
  rw [portRole, h]

/-- If the last resource that is named for ports can be used and consists of ranges, matching takes
ports from it. -/
theorem lastPorts?_of_getLast? {o : Offer α} {role : String} {last : Resource α}
    {ranges : List PortRange} (h : o.portEntries.getLast? = some last)
    (usable : last.isUsableBy role = true) (kind : last.ports? = some ranges) :
    o.lastPorts? role = some ranges := by
  obtain ⟨others, entries⟩ := List.getLast?_eq_some_iff.1 h
  obtain ⟨early, late, split, -, filtered⟩ := List.filter_eq_append_iff.1 entries
  obtain ⟨skipped, rest, rfl, -, -, none⟩ := List.filter_eq_cons_iff.1 filtered
  have after : (rest.filter (·.isUsableBy role)).filterMap Resource.ports? = [] := by
    apply List.filterMap_eq_nil_iff.2
    intro r member
    have named : r.name ≠ ResourceName.ports := by
      simpa using List.filter_eq_nil_iff.1 none r (List.mem_of_mem_filter member)
    rw [Resource.ports?]
    split
    · rw [if_neg named]
    · rfl
  rw [lastPorts?, Offer.usable, split]
  simp [usable, kind, after]

/-- The ranges from which matching takes ports are those of a resource that is named for ports. -/
theorem exists_of_lastPorts? {o : Offer α} {role : String} {ranges : List PortRange}
    (h : o.lastPorts? role = some ranges) : ∃ r ∈ o.portEntries, r.ports? = some ranges := by
  obtain ⟨r, member, kind⟩ := List.mem_filterMap.1 (List.mem_of_getLast? h)
  have offered : r ∈ o.resources := List.mem_of_mem_filter member
  refine ⟨r, List.mem_filter.2 ⟨offered, beq_iff_eq.2 ?_⟩, kind⟩
  rw [Resource.ports?] at kind
  split at kind
  · split at kind
    · next named => exact named
    · cases kind
  · cases kind

/-- A claim on single ports is backed if each of them is offered under its role. -/
theorem backs_singles_iff {o : Offer α} {role mine : String} {hosts : List UInt64} :
    o.Backs role ⟨ResourceName.ports, mine, .ranges (hosts.map .single)⟩ ↔
      (mine == role || mine == anyRole) = true ∧ ∀ port ∈ hosts, o.HasPort mine port := by
  refine and_congr_right fun _ => ?_
  constructor
  · intro backed port member
    exact backed _ rfl _ (List.mem_map_of_mem member) port ⟨UInt64.le_refl _, UInt64.le_refl _⟩
  · rintro offered _ ⟨⟩ _ range port ⟨low, high⟩
    obtain ⟨host, member, rfl⟩ := List.mem_map.1 range
    obtain rfl : host = port := UInt64.le_antisymm low high
    exact offered host member

/-- The ports that a role can use are offered under the role of the last resource that is named for
ports, if it consists of ranges that the role can use. -/
theorem hasPort_of_mem_ports {o : Offer α} {role : String} {last : Resource α}
    (h : o.portEntries.getLast? = some last) (usable : last.isUsableBy role = true)
    (kind : last.ports?.isSome = true) {port : UInt64} (member : port ∈ o.ports role) :
    o.HasPort last.role port := by
  obtain ⟨ranges, found⟩ := Option.isSome_iff_exists.1 kind
  rw [ports, lastPorts?_of_getLast? h usable found, Option.getD_some] at member
  obtain ⟨range, among, inside⟩ := List.mem_flatMap.1 member
  have offered : last ∈ o.resources := List.mem_of_mem_filter (List.mem_of_getLast? h)
  exact ⟨last, offered, rfl, ranges, found, range, among, PortRange.mem_ports_iff.1 inside⟩

end Offer

variable [Amount α]

/-- If all mappings of a worker are dynamic, what its task claims of ports is backed by the offer
exactly if there is nothing to bind, or if the last resource that is named for ports can be used by
the framework, and either consists of ranges itself or, being of another kind, is reserved for a
role under which the ports of the allocation are offered all the same. -/
theorem port_claims_backed_iff {l : Launcher} {o : Offer α} {w : WorkerSpec α}
    {allocated : List UInt64} {task : Task α} (dynamic : ∀ m ∈ w.portMappings, m.isDynamic = true)
    (matched : o.evaluate l.role w = .ok allocated) (built : l.build o w allocated = .ok task) :
    (∀ claim ∈ task.portClaims, o.Backs l.role claim) ↔
      w.portMappings = [] ∨ ∃ last, o.portEntries.getLast? = some last ∧
        last.isUsableBy l.role = true ∧
        (last.ports?.isSome = true ∨
          last.ports? = none ∧ ∀ port ∈ allocated, o.HasPort last.role port) := by
  obtain ⟨first, enough, found⟩ := Offer.evaluate_ok_spec matched
  by_cases mapped : w.portMappings = []
  · refine iff_of_true ?_ (.inl mapped)
    rw [Launcher.portClaims_of_build built, mapped]
    nofun
  · obtain ⟨ranges, taken, -⟩ := found mapped
    obtain ⟨entry, among, -⟩ := Offer.exists_of_lastPorts? taken
    obtain ⟨last, ends⟩ := Option.ne_none_iff_exists'.1 fun none =>
      List.ne_nil_of_mem among (List.getLast?_eq_none_iff.1 none)
    have bound : bindPorts w.portMappings allocated ≠ [] :=
      (bindPorts_eq_nil_iff enough).not.2 mapped
    have hosts : ∀ port, port ∈ task.hostPorts ↔ port ∈ allocated := by
      intro port
      have none : w.portMappings.filterMap (·.hostPort) = [] := by
        apply List.filterMap_eq_nil_iff.2
        intro m member
        exact Option.isNone_iff_eq_none.1 (dynamic m member)
      rw [Launcher.hostPorts_of_build built, (perm_hostPort_bindPorts enough).mem_iff, none]
      rfl
    have backed : (∀ claim ∈ task.portClaims, o.Backs l.role claim) ↔
        last.isUsableBy l.role = true ∧ ∀ port ∈ allocated, o.HasPort last.role port := by
      rw [Launcher.portClaims_eq_singleton built bound, List.forall_mem_singleton,
        Offer.backs_singles_iff, Offer.portRole_of_getLast? ends]
      simp only [hosts]
      rfl
    rw [backed]
    constructor
    · rintro ⟨usable, offered⟩
      refine .inr ⟨last, ends, usable, ?_⟩
      cases kind : last.ports? with
      | none => exact .inr ⟨rfl, offered⟩
      | some _ => exact .inl rfl
    · rintro (unmapped | ⟨last', ends', usable, kind⟩)
      · exact absurd unmapped mapped
      · obtain rfl : last = last' := Option.some.inj (ends.symm.trans ends')
        refine ⟨usable, ?_⟩
        obtain ranges | ⟨-, offered⟩ := kind
        · intro port member
          apply Offer.hasPort_of_mem_ports ends usable ranges
          rw [first] at member
          exact List.mem_of_mem_take member
        · exact offered

namespace Plain

/-- Ports that are open to everyone, and after them ports that are reserved for others. -/
def followed : Offer Float :=
  richer [openPorts anyRole [⟨31000, 31010⟩], openPorts "others" [⟨500, 510⟩]]

/-- A port that is open to everyone is claimed under the role that others are reserved for. -/
theorem port_claims_backed_iff_followed :
    ∃ task, launcher.build followed (mapped [⟨8080, none, "tcp"⟩]) [31000] = .ok task ∧
      task.portClaims = [⟨ResourceName.ports, "others", .ranges [.single 31000]⟩] ∧
        ¬∀ claim ∈ task.portClaims, followed.Backs anyRole claim := by
  have matched : followed.evaluate anyRole (mapped [⟨8080, none, "tcp"⟩]) = .ok [31000] := by
    decide +kernel
  obtain ⟨task, built⟩ : ∃ task,
      launcher.build followed (mapped [⟨8080, none, "tcp"⟩]) [31000] = .ok task := ⟨_, rfl⟩
  refine ⟨task, built, Launcher.portClaims_of_build built, ?_⟩
  apply (port_claims_backed_iff (by decide) matched built).not.2
  rintro (none | ⟨last, ends, usable, -⟩)
  · cases none
  · have reserved : followed.portEntries.getLast? = some (openPorts "others" [⟨500, 510⟩]) := rfl
    obtain rfl := Option.some.inj (reserved.symm.trans ends)
    exact absurd usable (by decide)

end Plain

end OfferDispatch
