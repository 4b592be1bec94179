import OfferDispatch.Proofs.Ports

/-!
# Why an offer does not satisfy a worker

An offer that satisfies a worker fits it in four respects: cpus, memory, attributes and ports. One
that does not is answered with a list of what it lacks. Such a list is determined by what is on it
and by the order in which it is told, and it has one entry for each respect in which the offer does
not fit, and one for each attribute that it does not have.
-/

namespace OfferDispatch

variable {α : Type}

/-! ## The order of what is lacking -/

namespace Shortfall

/-- Cpus are told first, then memory, then attributes, then ports. -/
def rank : Shortfall α → Nat
  | cpus .. => 0
  | mem .. => 1
  | unmet .. => 2
  | ports .. => 3

/-- One shortfall is told before another; attributes are told in the order of their names. -/
def Before : Shortfall α → Shortfall α → Prop
  | unmet name _, unmet other _ => name < other
  | s, t => s.rank < t.rank

variable {s t : Shortfall α}

theorem before_of_rank (h : s.rank < t.rank) : s.Before t := by
  cases s with
  | unmet =>
      cases t with
      | unmet => exact absurd h (Nat.lt_irrefl 2)
      | _ => exact h
  | _ => exact h

theorem rank_le_of_before (h : s.Before t) : s.rank ≤ t.rank := by
  cases s with
  | unmet =>
      cases t with
      | unmet => exact Nat.le_refl 2
      | _ => exact Nat.le_of_lt h
  | _ => exact Nat.le_of_lt h

theorem Before.asymm (h : s.Before t) : ¬ t.Before s := by
  intro back
  have same : s.rank = t.rank := (rank_le_of_before h).antisymm (rank_le_of_before back)
  cases s with
  | unmet name _ =>
      cases t with
      | unmet other _ => exact String.lt_asymm h back
      | _ => cases same
  | _ => exact absurd same (Nat.ne_of_lt h)

/-- What is told in order is followed by what comes later. -/
theorem ordered_append {first second : List (Shortfall α)} (bound : Nat)
    (ordered : first.Pairwise Before) (below : ∀ s ∈ first, s.rank < bound)
    (ordered' : second.Pairwise Before) (above : ∀ s ∈ second, bound ≤ s.rank) :
    (first ++ second).Pairwise Before := by
  refine List.pairwise_append.2 ⟨ordered, ordered', ?_⟩
  intro s before t after
  exact before_of_rank ((below s before).trans_le (above t after))

/-- Two lists in the order of telling are equal if the same is on both. -/
theorem eq_of_mem_iff {first second : List (Shortfall α)} (ordered : first.Pairwise Before)
    (ordered' : second.Pairwise Before) (same : ∀ s, s ∈ first ↔ s ∈ second) : first = second := by
  have nodup {l : List (Shortfall α)} (h : l.Pairwise Before) : l.Nodup :=
    h.imp fun before => by
      rintro rfl
      exact before.asymm before
  have perm : first.Perm second :=
    (List.perm_ext_iff_of_nodup (nodup ordered) (nodup ordered')).2 same
  apply perm.eq_of_pairwise _ ordered ordered'
  intro s t _ _ before after
  exact absurd after before.asymm

end Shortfall

/-! ## What fits and what lacks -/

namespace Offer

variable [Amount α]

/-- How much there is of a name for a role: what the last entry says that the role can use. -/
def amount (o : Offer α) (role name : String) : α :=
  (o.lastAmount? role name).getD Amount.missing

/-- There are ports for the mappings of a worker, if it has any: a range at least, and in all ranges
together no fewer than dynamic mappings. -/
def HasPortsFor (o : Offer α) (role : String) (w : WorkerSpec α) : Prop :=
  w.portMappings ≠ [] → ∃ ranges, o.lastPorts? role = some ranges ∧ ranges ≠ [] ∧
    w.dynamicPorts ≤ (ranges.map PortRange.size).sum

structure Fits (o : Offer α) (role : String) (w : WorkerSpec α) : Prop where
  cpus : Amount.le w.cpus (o.amount role ResourceName.cpus) = true
  mem : Amount.le (Amount.padded w.memory) (o.amount role ResourceName.mem) = true
  attributes : o.Carries w.selector
  ports : o.HasPortsFor role w

/-- The list tells what the offer lacks for a worker, all of it and nothing else, in the order of
telling, and with what was compared. -/
structure Lacks (o : Offer α) (role : String) (w : WorkerSpec α) (list : List (Shortfall α)) :
    Prop where
  ordered : list.Pairwise Shortfall.Before
  cpus : ∀ requested offered, .cpus requested offered ∈ list ↔
    ¬ Amount.le w.cpus (o.amount role ResourceName.cpus) = true ∧
      requested = w.cpus ∧ offered = o.amount role ResourceName.cpus
  mem : ∀ requested offered, .mem requested offered ∈ list ↔
    ¬ Amount.le (Amount.padded w.memory) (o.amount role ResourceName.mem) = true ∧
      requested = Amount.padded w.memory ∧ offered = o.amount role ResourceName.mem
  unmet : ∀ name value, .unmet name value ∈ list ↔
    (name, value) ∈ w.selector.pairs.entries ∧ ⟨name, value⟩ ∉ o.attributes
  ports : ∀ requested available, .ports requested available ∈ list ↔
    ¬ o.HasPortsFor role w ∧ requested = w.dynamicPorts ∧ available = (o.ports role).length

/-- The answer for a worker is a list of what the offer lacks, and this is on it. -/
def Reports (o : Offer α) (role : String) (w : WorkerSpec α) (s : Shortfall α) : Prop :=
  ∃ list, o.evaluate role w = .error list ∧ s ∈ list

variable {o : Offer α} {role : String} {w : WorkerSpec α}

/-- Two lists that tell all that is lacking are equal. -/
theorem Lacks.unique {first second : List (Shortfall α)} (h : o.Lacks role w first)
    (h' : o.Lacks role w second) : first = second := by
  apply Shortfall.eq_of_mem_iff h.ordered h'.ordered
  intro s
  cases s with
  | cpus requested offered => rw [h.cpus, h'.cpus]
  | mem requested offered => rw [h.mem, h'.mem]
  | unmet name value => rw [h.unmet, h'.unmet]
  | ports requested available => rw [h.ports, h'.ports]

theorem lacksPorts_iff_not_hasPortsFor :
    o.lacksPorts role w = true ↔ ¬ o.HasPortsFor role w := by
  constructor
  · intro lacking ports
    obtain ⟨mapped, few⟩ := lacksPorts_iff.1 lacking
    obtain ⟨ranges, last, some_, enough⟩ := ports mapped
    rw [last, Option.getD_some] at few
    obtain none | fewer := few
    · exact some_ none
    · exact absurd enough (Nat.not_le_of_lt fewer)
  · intro none
    by_contra enough
    exact none fun mapped => ports_of_lacksPorts (Bool.eq_false_iff.2 enough) mapped

/-- Where ports are lacking, all that there are have been found. -/
theorem length_allocation (lacking : ¬ o.HasPortsFor role w) :
    (o.allocation role w).length = (o.ports role).length := by
  obtain ⟨-, few⟩ := lacksPorts_iff.1 (lacksPorts_iff_not_hasPortsFor.2 lacking)
  rw [allocation_eq_take, List.length_take, length_ports]
  apply Nat.min_eq_right
  obtain none | fewer := few
  · rw [none]
    exact Nat.zero_le _
  · exact Nat.le_of_lt fewer

/-- What is told of ports: if they are lacking, how many there are. -/
theorem toldPorts_eq (o : Offer α) (role : String) (w : WorkerSpec α) :
    (if o.lacksPorts role w then
        [Shortfall.ports (α := α) w.dynamicPorts (o.allocation role w).length] else []) =
      if o.lacksPorts role w then [.ports w.dynamicPorts (o.ports role).length] else [] := by
  split
  · next lacking => rw [length_allocation (lacksPorts_iff_not_hasPortsFor.1 lacking)]
  · rfl

/-- What is told of cpus, of memory, of attributes and of ports, one after the other. -/
theorem shortfalls_eq (o : Offer α) (role : String) (w : WorkerSpec α) :
    let cpus : List (Shortfall α) :=
      if Amount.le w.cpus (o.amount role ResourceName.cpus) then []
      else [.cpus w.cpus (o.amount role ResourceName.cpus)]
    let mem : List (Shortfall α) :=
      if Amount.le (Amount.padded w.memory) (o.amount role ResourceName.mem) then []
      else [.mem (Amount.padded w.memory) (o.amount role ResourceName.mem)]
    let unmet : List (Shortfall α) :=
      (w.selector.unmet o.attributes).map fun pair => .unmet pair.1 pair.2
    let ports : List (Shortfall α) :=
      if o.lacksPorts role w then [.ports w.dynamicPorts (o.ports role).length] else []
    o.shortfalls role w = cpus ++ mem ++ unmet ++ ports := by
  rw [shortfalls, cpus_holds, mem_holds, toldPorts_eq]
  rfl

theorem ordered_shortfalls (o : Offer α) (role : String) (w : WorkerSpec α) :
    (o.shortfalls role w).Pairwise Shortfall.Before := by
  have named : (w.selector.unmet o.attributes).Pairwise fun p q => p.1 < q.1 :=
    (List.pairwise_map.1 w.selector.pairs.ascending).filter _
  have unmet : ((w.selector.unmet o.attributes).map fun pair =>
      Shortfall.unmet (α := α) pair.1 pair.2).Pairwise Shortfall.Before :=
    List.pairwise_map.2 named
  rw [shortfalls_eq]
  -- The four parts are put together from the left; a rank separates each from the next one.
  apply Shortfall.ordered_append 3
  · apply Shortfall.ordered_append 2
    · apply Shortfall.ordered_append 1
      · grind
      · grind [Shortfall.rank]
      · grind
      · grind [Shortfall.rank]
    · grind [Shortfall.rank]
    · exact unmet
    · grind [Shortfall.rank]
  · grind [Shortfall.rank]
  · grind
  · grind [Shortfall.rank]

theorem lacks_shortfalls (o : Offer α) (role : String) (w : WorkerSpec α) :
    o.Lacks role w (o.shortfalls role w) := by
  refine ⟨o.ordered_shortfalls role w, ?_, ?_, ?_, ?_⟩
  · intro requested offered
    simp [shortfalls_eq]
  · intro requested offered
    simp [shortfalls_eq]
  · intro name value
    rw [← Selector.mem_unmet_iff]
    simp [shortfalls_eq]
  · intro requested available
    rw [← lacksPorts_iff_not_hasPortsFor]
    simp [shortfalls_eq]

/-- Nothing is lacking exactly if the offer fits. -/
theorem shortfalls_eq_nil_iff : o.shortfalls role w = [] ↔ o.Fits role w := by
  have lacks := o.lacks_shortfalls role w
  constructor
  · intro none
    rw [none] at lacks
    refine ⟨?_, ?_, ?_, ?_⟩
    · by_contra few
      cases (lacks.cpus _ _).2 ⟨few, rfl, rfl⟩
    · by_contra few
      cases (lacks.mem _ _).2 ⟨few, rfl, rfl⟩
    · intro pair asked
      by_contra absent
      cases (lacks.unmet _ _).2 ⟨asked, absent⟩
    · by_contra few
      cases (lacks.ports _ _).2 ⟨few, rfl, rfl⟩
  · intro fits
    apply List.eq_nil_iff_forall_not_mem.2
    intro s told
    cases s with
    | cpus requested offered => exact ((lacks.cpus _ _).1 told).1 fits.cpus
    | mem requested offered => exact ((lacks.mem _ _).1 told).1 fits.mem
    | unmet name value =>
        obtain ⟨asked, absent⟩ := (lacks.unmet _ _).1 told
        exact absent (fits.attributes (name, value) asked)
    | ports requested available => exact ((lacks.ports _ _).1 told).1 fits.ports

theorem evaluate_eq_ok_iff_fits {allocated : List UInt64} :
    o.evaluate role w = .ok allocated ↔
      o.Fits role w ∧ allocated = (o.ports role).take w.dynamicPorts := by
  rw [evaluate_eq_ok_iff, shortfalls_eq_nil_iff, allocation_eq_take]

theorem evaluate_eq_error_iff {list : List (Shortfall α)} :
    o.evaluate role w = .error list ↔ ¬ o.Fits role w ∧ o.Lacks role w list := by
  have told : o.evaluate role w = .error list ↔
      o.shortfalls role w ≠ [] ∧ o.shortfalls role w = list := by
    rw [evaluate]
    split
    · next none => exact ⟨nofun, fun told => absurd none told.1⟩
    · next some_ => exact ⟨fun told => ⟨some_, Except.error.inj told⟩, fun told => told.2 ▸ rfl⟩
  rw [told, ne_eq, shortfalls_eq_nil_iff]
  apply and_congr_right
  intro _
  constructor
  · rintro rfl
    exact o.lacks_shortfalls role w
  · exact (o.lacks_shortfalls role w).unique

theorem reports_iff {s : Shortfall α} : o.Reports role w s ↔ s ∈ o.shortfalls role w := by
  constructor
  · rintro ⟨list, answered, told⟩
    rw [(o.lacks_shortfalls role w).unique (evaluate_eq_error_iff.1 answered).2]
    exact told
  · intro told
    refine ⟨_, evaluate_eq_error_iff.2 ⟨?_, o.lacks_shortfalls role w⟩, told⟩
    rw [← shortfalls_eq_nil_iff]
    exact List.ne_nil_of_mem told

end Offer

/-- Matching decides exactly, and explains completely. An offer satisfies a worker if and only if it
fits in all respects, and then it gives its first ports, as many as there are dynamic mappings.
Otherwise the answer is the list of what the offer lacks. An amount that is not a number never
fits: a comparison with it is told as a shortfall. -/
theorem evaluate_decides (o : Offer Float) (role : String) (w : WorkerSpec Float) :
    (∀ allocated, o.evaluate role w = .ok allocated ↔
      o.Fits role w ∧ allocated = (o.ports role).take w.dynamicPorts) ∧
    (∀ list, o.evaluate role w = .error list ↔ ¬ o.Fits role w ∧ o.Lacks role w list) ∧
    (w.cpus.isNaN ∨ (o.amount role ResourceName.cpus).isNaN →
      o.Reports role w (.cpus w.cpus (o.amount role ResourceName.cpus))) ∧
    ((o.amount role ResourceName.mem).isNaN →
      o.Reports role w (.mem (Amount.padded w.memory) (o.amount role ResourceName.mem))) := by
  have lacks := o.lacks_shortfalls role w
  have few {x y : Float} (none : x.isNaN ∨ y.isNaN) : ¬ Amount.le x y = true := by
    show ¬ decide (x ≤ y) = true
    rw [decide_eq_true_iff]
    exact not_le_of_isNaN none
  refine ⟨fun _ => Offer.evaluate_eq_ok_iff_fits, fun _ => Offer.evaluate_eq_error_iff, ?_, ?_⟩
  · intro none
    apply Offer.reports_iff.2
    exact (lacks.cpus _ _).2 ⟨few none, rfl, rfl⟩
  · intro none
    apply Offer.reports_iff.2
    exact (lacks.mem _ _).2 ⟨few (.inr none), rfl, rfl⟩

namespace Plain

-- An offer that lacks cpus, two attributes and a port. The range that goes downwards has no port.
example : (richer [openPorts anyRole [⟨31000, 31000⟩, ⟨5, 4⟩]]).evaluate anyRole
    { mapped mixed with cpus := 8.0, selector := .ofPairs [("zone", "b"), ("rack", "r")] } =
      .error [.cpus 8.0 4.0, .unmet "rack" "r", .unmet "zone" "b", .ports 2 1] := by
  decide +kernel

end Plain

end OfferDispatch
