import OfferDispatch.Proofs.Shortfalls

/-!
# What a task claims of cpus, memory and disk

An offer may have several entries of one name: some that are reserved for the role of a framework,
and some that are open to everyone. A task is built by going through them in order, and each entry
gives what is still needed, or all it has. So in the end as much is claimed as is needed, or all that
there is. Amounts are rational numbers here, so that no sum is rounded.

Matching goes through the same entries, but looks at the last one of a name only. If that one has
enough, all of them have; the converse fails, and it is shown when it does.
-/

namespace OfferDispatch

/-! ## Exact amounts -/

instance : Amount ℚ where
  le x y := decide (x ≤ y)
  add x y := x + y
  sub x y := x - y
  least := min
  zero := 0
  nothing := 0
  missing := -1
  padded memory := (1 + 1 / 10) * memory.toNat

namespace Amount

@[simp] theorem le_rat_iff {x y : ℚ} : Amount.le x y = true ↔ x ≤ y := decide_eq_true_iff

@[simp] theorem least_rat (x y : ℚ) : Amount.least x y = min x y := rfl

@[simp] theorem zero_rat : (Amount.zero : ℚ) = 0 := rfl

@[simp] theorem sum_rat (amounts : List ℚ) : Amount.sum amounts = amounts.sum :=
  List.sum_eq_foldl.symm

theorem padded_rat_nonneg (memory : UInt32) : (0 : ℚ) ≤ Amount.padded memory := by
  show 0 ≤ (1 + 1 / 10) * (memory.toNat : ℚ)
  positivity

end Amount

/-- What one entry gives, and what the others give of the rest, is the smaller of what is needed and
of what there is in all. -/
theorem min_add_min_sub_min {available needed others : ℚ} (h : 0 ≤ others) :
    min available needed + min (needed - min available needed) others =
      min needed (available + others) := by
  obtain scarce | enough := le_total available needed
  · rw [min_eq_left scarce, ← min_add_add_left, add_sub_cancel]
  · rw [min_eq_right enough, sub_self, min_eq_left h, add_zero, min_eq_left]
    linarith

/-! ## The amounts of a name -/

section

variable {α : Type}

/-- The amounts of the entries of a name, in their order. -/
def amountsOf (name : String) (resources : List (Resource α)) : List α :=
  resources.filterMap (Resource.amountOf? name)

theorem amountsOf_append (name : String) (first second : List (Resource α)) :
    amountsOf name (first ++ second) = amountsOf name first ++ amountsOf name second :=
  List.filterMap_append

theorem amountsOf_cons (name : String) (r : Resource α) (rest : List (Resource α)) :
    amountsOf name (r :: rest) = (r.amountOf? name).toList ++ amountsOf name rest := by
  rw [amountsOf, List.filterMap_cons]
  cases r.amountOf? name with
  | none => rfl
  | some _ => rfl

theorem Resource.amountOf?_eq_some_iff {r : Resource α} {name : String} {amount : α} :
    r.amountOf? name = some amount ↔ r.name = name ∧ r.amount? = some amount := by
  rw [amountOf?]
  split
  · next same => exact (and_iff_right same).symm
  · next other =>
      constructor
      · intro found
        cases found
      · rintro ⟨named, -⟩
        exact absurd named other

end

/-- No entry offers less than nothing. -/
def HasNoDebts (resources : List (Resource ℚ)) : Prop :=
  ∀ r ∈ resources, ∀ amount, r.amount? = some amount → 0 ≤ amount

theorem nonneg_of_mem_amountsOf {name : String} {resources : List (Resource ℚ)} {amount : ℚ}
    (offered : HasNoDebts resources) (member : amount ∈ amountsOf name resources) :
    0 ≤ amount := by
  obtain ⟨r, among, found⟩ := List.mem_filterMap.1 member
  exact offered r among amount (Resource.amountOf?_eq_some_iff.1 found).2

/-! ## Claiming entry by entry -/

namespace Needs

variable {α : Type} [Amount α]

/-- A claim lowers what is needed of its own resource, and of no other. -/
theorem find?_claim (n : Needs α) (name other : String) (amount : α) :
    (n.claim name amount).find? other =
      if other = name then (n.find? other).map (Amount.sub · amount) else n.find? other := by
  have mem : ResourceName.mem ≠ ResourceName.cpus := by decide
  have disk : ResourceName.disk ≠ ResourceName.cpus := by decide
  have disk' : ResourceName.disk ≠ ResourceName.mem := by decide
  grind [Needs.find?, Needs.claim]

end Needs

/-- The claim takes part of an entry: no more than there is, under the same name and role. -/
structure Resource.IsPartOf (claim entry : Resource ℚ) : Prop where
  name : claim.name = entry.name
  role : claim.role = entry.role
  amount : ∃ taken available, claim.amount? = some taken ∧ entry.amount? = some available ∧
    0 ≤ taken ∧ taken ≤ available

section

variable {r : Resource ℚ} {resources : List (Resource ℚ)} {needs : Needs ℚ} {taken : ℚ}

/-- A share is the smaller of what is there and of what is needed, if anything is. -/
theorem Resource.share?_eq_some_iff :
    r.share? needs = some taken ↔ ∃ available needed, r.amount? = some available ∧
      needs.find? r.name = some needed ∧ 0 < needed ∧ taken = min available needed := by
  rw [Resource.share?]
  cases r.amount? with
  | none => simp
  | some available =>
      cases needs.find? r.name with
      | none => simp
      | some needed =>
          by_cases satisfied : needed ≤ 0
          · simp [satisfied]
          · simp [satisfied, not_le.1 satisfied, @eq_comm _ taken]

theorem claims_cons_of_share (rest : List (Resource ℚ)) (shared : r.share? needs = some taken) :
    claims (r :: rest) needs =
      { r with value := .scalar taken } :: claims rest (needs.claim r.name taken) := by
  rw [claims, shared]

theorem claims_cons_of_none (rest : List (Resource ℚ)) (none : r.share? needs = none) :
    claims (r :: rest) needs = claims rest needs := by
  rw [claims, none]

/-- The claims take parts of distinct entries, in the order of the entries. -/
theorem exists_parts (offered : HasNoDebts resources) (needs : Needs ℚ) :
    ∃ entries, entries.Sublist resources ∧
      List.Forall₂ Resource.IsPartOf (claims resources needs) entries := by
  induction resources generalizing needs with
  | nil => exact ⟨[], .slnil, .nil⟩
  | cons r rest ih =>
      obtain ⟨own, others⟩ := List.forall_mem_cons.1 offered
      cases shared : r.share? needs with
      | none =>
          obtain ⟨entries, among, parts⟩ := ih others needs
          rw [claims_cons_of_none rest shared]
          exact ⟨entries, among.cons r, parts⟩
      | some taken =>
          obtain ⟨entries, among, parts⟩ := ih others (needs.claim r.name taken)
          obtain ⟨available, needed, there, -, positive, rfl⟩ :=
            Resource.share?_eq_some_iff.1 shared
          rw [claims_cons_of_share rest shared]
          refine ⟨r :: entries, among.cons_cons r, .cons ⟨rfl, rfl, ?_⟩ parts⟩
          exact ⟨_, available, rfl, there, le_min (own available there) positive.le,
            min_le_left _ _⟩

variable {name : String} {needed : ℚ}

/-- An entry of another kind gives nothing of a name, and leaves what is needed of it. -/
theorem exists_claims_cons_of_none (needs : Needs ℚ) (other : r.amountOf? name = none)
    (rest : List (Resource ℚ)) :
    ∃ after : Needs ℚ, after.find? name = needs.find? name ∧
      amountsOf name (claims (r :: rest) needs) = amountsOf name (claims rest after) := by
  cases shared : r.share? needs with
  | none =>
      refine ⟨needs, rfl, ?_⟩
      rw [claims_cons_of_none rest shared]
  | some taken =>
      obtain ⟨available, -, there, -⟩ := Resource.share?_eq_some_iff.1 shared
      have unnamed : r.name ≠ name := by
        intro named
        cases other.symm.trans (Resource.amountOf?_eq_some_iff.2 ⟨named, there⟩)
      refine ⟨needs.claim r.name taken, ?_, ?_⟩
      · rw [Needs.find?_claim, if_neg unnamed.symm]
      · have nothing : ({ r with value := .scalar taken } : Resource ℚ).amountOf? name = none :=
          if_neg unnamed
        rw [claims_cons_of_share rest shared, amountsOf_cons, nothing]
        rfl

/-- An entry of a name gives what is needed, or all that it has. -/
theorem exists_claims_cons_of_some {available : ℚ} (own : r.amountOf? name = some available)
    (wanted : needs.find? name = some needed) (nonneg : 0 ≤ needed) (there : 0 ≤ available)
    (rest : List (Resource ℚ)) :
    ∃ after : Needs ℚ, after.find? name = some (needed - min available needed) ∧
      (amountsOf name (claims (r :: rest) needs)).sum =
        min available needed + (amountsOf name (claims rest after)).sum := by
  obtain ⟨rfl, offered⟩ := Resource.amountOf?_eq_some_iff.1 own
  obtain rfl | positive := nonneg.eq_or_lt
  · -- Nothing is needed any more, so the entry is passed over.
    have passed : r.share? needs = none := by
      apply Option.eq_none_iff_forall_ne_some.2
      intro taken shared
      obtain ⟨-, _, -, found, more, -⟩ := Resource.share?_eq_some_iff.1 shared
      cases wanted.symm.trans found
      exact lt_irrefl 0 more
    refine ⟨needs, ?_, ?_⟩
    · rw [min_eq_right there, sub_zero]
      exact wanted
    · rw [min_eq_right there, zero_add, claims_cons_of_none rest passed]
  · have shared : r.share? needs = some (min available needed) :=
      Resource.share?_eq_some_iff.2 ⟨available, needed, offered, wanted, positive, rfl⟩
    refine ⟨needs.claim r.name (min available needed), ?_, ?_⟩
    · rw [Needs.find?_claim, if_pos rfl, wanted]
      rfl
    · have given : ({ r with value := .scalar (min available needed) } : Resource ℚ).amountOf?
          r.name = some (min available needed) := if_pos rfl
      rw [claims_cons_of_share rest shared, amountsOf_cons, given]
      exact List.sum_cons

/-- In all, as much is claimed of a name as is needed, or all that there is. -/
theorem sum_claims (wanted : needs.find? name = some needed) (nonneg : 0 ≤ needed)
    (offered : HasNoDebts resources) :
    (amountsOf name (claims resources needs)).sum = min needed (amountsOf name resources).sum := by
  induction resources generalizing needs needed with
  | nil => exact (min_eq_right nonneg).symm
  | cons r rest ih =>
      obtain ⟨first, others⟩ := List.forall_mem_cons.1 offered
      cases own : r.amountOf? name with
      | none =>
          obtain ⟨after, still, given⟩ := exists_claims_cons_of_none needs own rest
          rw [given, ih (still.trans wanted) nonneg others, amountsOf_cons, own]
          rfl
      | some available =>
          have there : 0 ≤ available := first available (Resource.amountOf?_eq_some_iff.1 own).2
          have later : 0 ≤ (amountsOf name rest).sum :=
            List.sum_nonneg fun amount member => nonneg_of_mem_amountsOf others member
          obtain ⟨after, still, given⟩ := exists_claims_cons_of_some own wanted nonneg there rest
          have left : 0 ≤ needed - min available needed := sub_nonneg.2 (min_le_right _ _)
          rw [given, ih still left others, min_add_min_sub_min later, amountsOf_cons, own]
          rfl

end

/-! ## What a task claims -/

section

variable {α : Type} {l : Launcher} {o : Offer α} {w : WorkerSpec α} {allocated : List UInt64}
  {task : Task α}

/-- What the task claims of scalar resources. -/
def Task.scalarClaims (t : Task α) : List (Resource α) := t.resources.filter (·.amount?.isSome)

theorem amount?_of_mem_claimPorts {role : String} {bound : List BoundPort} {r : Resource α}
    (member : r ∈ claimPorts role bound) : r.amount? = none := by
  rw [claimPorts] at member
  split at member
  · cases member
  · cases List.mem_singleton.1 member
    rfl

theorem Launcher.scalarClaims_of_build [Amount α] (built : l.build o w allocated = .ok task) :
    task.scalarClaims = claims (o.usable l.role) (.ofWorker w) := by
  rw [Task.scalarClaims, resources_of_build built, List.filter_append, List.filter_eq_self.2,
    List.filter_eq_nil_iff.2, List.append_nil]
  · intro r member
    simp [amount?_of_mem_claimPorts member]
  · intro r member
    obtain ⟨-, -, -, -, -, rfl⟩ := exists_of_mem_claims member
    rfl

end

namespace Offer

/-- How much there is of a name in all entries that a role can use. -/
def total (o : Offer ℚ) (role name : String) : ℚ := (amountsOf name (o.usable role)).sum

def HasNoDebts (o : Offer ℚ) : Prop := OfferDispatch.HasNoDebts o.resources

variable {o : Offer ℚ} {role name : String}

theorem HasNoDebts.usable (h : o.HasNoDebts) (role : String) :
    OfferDispatch.HasNoDebts (o.usable role) :=
  fun r member => h r (List.mem_of_mem_filter member)

/-- The last entry of a name that a role can use has as much as is needed. -/
def LastCovers (o : Offer ℚ) (role name : String) (needed : ℚ) : Prop :=
  ∃ last, o.lastAmount? role name = some last ∧ needed ≤ last

/-- There is no less in all than in the last entry. -/
theorem LastCovers.le_total {needed : ℚ} (h : o.LastCovers role name needed)
    (offered : o.HasNoDebts) : needed ≤ o.total role name := by
  obtain ⟨last, found, enough⟩ := h
  have part : last ≤ o.total role name :=
    List.single_le_sum (fun _ => nonneg_of_mem_amountsOf (offered.usable role)) _
      (List.mem_of_getLast? found)
  exact enough.trans part

/-- Nothing covers what is missing. -/
theorem lastCovers_iff {needed : ℚ} (nonneg : 0 ≤ needed) :
    Amount.le needed (o.amount role name) = true ↔ o.LastCovers role name needed := by
  rw [Amount.le_rat_iff, LastCovers, amount]
  cases o.lastAmount? role name with
  | none =>
      have missing : ¬ needed ≤ (Amount.missing : ℚ) := by
        show ¬ needed ≤ -1
        linarith
      simpa using missing
  | some last => simp

end Offer

/-- The sum of what a task claims of a name is the smaller of what its worker needs and of what
there is in all. -/
theorem Launcher.scalar_of_build {l : Launcher} {o : Offer ℚ} {w : WorkerSpec ℚ}
    {allocated : List UInt64} {task : Task ℚ} (built : l.build o w allocated = .ok task)
    (offered : o.HasNoDebts) {name : String} {needed : ℚ}
    (wanted : (Needs.ofWorker w).find? name = some needed) (nonneg : 0 ≤ needed) :
    task.scalar name = min needed (o.total l.role name) := by
  have claimed : task.scalar name = (amountsOf name task.resources).sum := by
    rw [Task.scalar, Amount.sum_rat, List.filterMap_filter]
    simp only [beq_iff_eq]
    rfl
  have ports : amountsOf name (claimPorts (α := ℚ) o.portRole
      (bindPorts w.portMappings allocated)) = [] := by
    apply List.filterMap_eq_nil_iff.2
    intro r member
    rw [Resource.amountOf?, amount?_of_mem_claimPorts member, ite_self]
  rw [claimed, resources_of_build built, amountsOf_append, ports, List.append_nil]
  exact sum_claims wanted nonneg (offered.usable l.role)

/-- If an offer without negative amounts satisfies a worker that needs no negative amounts, the task
that is built for it claims parts of distinct entries that its role can use, in their order. The
claims of cpus add up to what the worker needs, those of memory to its padded memory, and those of
disk to what it needs or to all that there is. -/
theorem claims_add_up {l : Launcher} {o : Offer ℚ} {w : WorkerSpec ℚ} {allocated : List UInt64}
    {task : Task ℚ} (offered : o.HasNoDebts) (cpus : 0 ≤ w.cpus) (disk : 0 ≤ w.disk)
    (matched : o.evaluate l.role w = .ok allocated) (built : l.build o w allocated = .ok task) :
    (∃ entries, entries.Sublist (o.usable l.role) ∧
      List.Forall₂ Resource.IsPartOf task.scalarClaims entries) ∧
      task.scalar ResourceName.cpus = w.cpus ∧
      task.scalar ResourceName.mem = Amount.padded w.memory ∧
      task.scalar ResourceName.disk = min w.disk (o.total l.role ResourceName.disk) := by
  obtain ⟨fits, -⟩ := Offer.evaluate_eq_ok_iff_fits.1 matched
  have memory : (0 : ℚ) ≤ Amount.padded w.memory := Amount.padded_rat_nonneg w.memory
  have enoughCpus := (Offer.lastCovers_iff cpus).1 fits.cpus
  have enoughMem := (Offer.lastCovers_iff memory).1 fits.mem
  refine ⟨?_, ?_, ?_, ?_⟩
  · rw [Launcher.scalarClaims_of_build built]
    exact exists_parts (offered.usable l.role) _
  · rw [Launcher.scalar_of_build built offered rfl cpus]
    exact min_eq_left (enoughCpus.le_total offered)
  · rw [Launcher.scalar_of_build built offered rfl memory]
    exact min_eq_left (enoughMem.le_total offered)
  · exact Launcher.scalar_of_build built offered rfl disk

namespace Plain

def exactly (entries : List (Resource ℚ)) : Offer ℚ := ⟨⟨"o"⟩, ⟨"agent"⟩, "host", entries, [], none⟩

def job (cpus disk : ℚ) : WorkerSpec ℚ := { worker "w" with cpus := cpus, disk := disk }

def launcherOf (role : String) : Launcher := ⟨"http://controller/", role⟩

/-- Cpus come in three entries, one of which is reserved for another role, and there is less disk
than is asked for. -/
def assorted : Offer ℚ :=
  exactly [⟨ResourceName.cpus, "ci", .scalar 2⟩, ⟨ResourceName.mem, anyRole, .scalar 512⟩,
    ⟨ResourceName.cpus, "batch", .scalar 8⟩, ⟨ResourceName.disk, "ci", .scalar 5⟩,
    ⟨ResourceName.cpus, anyRole, .scalar 3⟩, ⟨ResourceName.mem, "ci", .scalar 1024⟩]

/-- What is claimed of cpus is put together from two entries, and all of the disk is claimed. -/
theorem claims_add_up_assorted :
    ∃ task, (launcherOf "ci").build assorted (job (5 / 2) 7) [] = .ok task ∧
      task.scalar ResourceName.cpus = 5 / 2 ∧ task.scalar ResourceName.disk = 5 := by
  have offered : assorted.HasNoDebts := by
    simp [Offer.HasNoDebts, HasNoDebts, assorted, exactly, Resource.amount?]
  have matched : assorted.evaluate "ci" (job (5 / 2) 7) = .ok [] := by
    decide +kernel
  obtain ⟨task, built⟩ := (launcherOf "ci").exists_build assorted [] (w := job (5 / 2) 7) rfl
  obtain ⟨-, cpus, -, disk⟩ := claims_add_up (l := launcherOf "ci") offered
    (by decide +kernel) (by decide +kernel) matched built
  have least : min (job (5 / 2) 7).disk (assorted.total "ci" ResourceName.disk) = 5 := by
    decide +kernel
  exact ⟨task, built, cpus, disk.trans least⟩

end Plain

/-- If an offer without negative amounts has as many cpus and as much memory in all as a worker
needs, then every task that is built for the worker claims them in full. But the offer is told to
lack neither exactly if the last entry of cpus has enough by itself, and so has the last one of
memory. -/
theorem scalars_suffice_iff {o : Offer ℚ} {role : String} {w : WorkerSpec ℚ}
    (offered : o.HasNoDebts) (nonneg : 0 ≤ w.cpus)
    (cpus : w.cpus ≤ o.total role ResourceName.cpus)
    (mem : Amount.padded w.memory ≤ o.total role ResourceName.mem) :
    (∀ (l : Launcher) allocated task, l.role = role → l.build o w allocated = .ok task →
      task.scalar ResourceName.cpus = w.cpus ∧
        task.scalar ResourceName.mem = Amount.padded w.memory) ∧
    ((∀ requested held, ¬ o.Reports role w (.cpus requested held) ∧
        ¬ o.Reports role w (.mem requested held)) ↔
      o.LastCovers role ResourceName.cpus w.cpus ∧
        o.LastCovers role ResourceName.mem (Amount.padded w.memory)) := by
  have memory : (0 : ℚ) ≤ Amount.padded w.memory := Amount.padded_rat_nonneg w.memory
  have lacks := o.lacks_shortfalls role w
  rw [← Offer.lastCovers_iff nonneg, ← Offer.lastCovers_iff memory]
  refine ⟨?_, ?_, ?_⟩
  · rintro l allocated task rfl built
    constructor
    · rw [Launcher.scalar_of_build built offered rfl nonneg]
      exact min_eq_left cpus
    · rw [Launcher.scalar_of_build built offered rfl memory]
      exact min_eq_left mem
  · intro silent
    constructor
    · by_contra few
      exact (silent _ _).1 (Offer.reports_iff.2 ((lacks.cpus _ _).2 ⟨few, rfl, rfl⟩))
    · by_contra few
      exact (silent _ _).2 (Offer.reports_iff.2 ((lacks.mem _ _).2 ⟨few, rfl, rfl⟩))
  · rintro ⟨enough, enough'⟩ requested held
    rw [Offer.reports_iff, Offer.reports_iff, lacks.cpus, lacks.mem]
    exact ⟨fun told => told.1 enough, fun told => told.1 enough'⟩

namespace Plain

def halved : Offer ℚ :=
  exactly [⟨ResourceName.cpus, "ci", .scalar 2⟩, ⟨ResourceName.cpus, anyRole, .scalar 2⟩,
    ⟨ResourceName.mem, anyRole, .scalar 8192⟩]

/-- Both entries together have more cpus than are needed, and they would be claimed in full. Yet the
offer is told to lack them, since the second one has too few. -/
theorem scalars_suffice_iff_halved :
    halved.total "ci" ResourceName.cpus = 4 ∧
      (∀ task, (launcherOf "ci").build halved (job 3 0) [] = .ok task →
        task.scalar ResourceName.cpus = 3) ∧
      halved.Reports "ci" (job 3 0) (.cpus 3 2) := by
  have offered : halved.HasNoDebts := by
    simp [Offer.HasNoDebts, HasNoDebts, halved, exactly, Resource.amount?]
  have nonneg : 0 ≤ (job 3 0).cpus := by decide +kernel
  have cpus : (job 3 0).cpus ≤ halved.total "ci" ResourceName.cpus := by decide +kernel
  have mem : Amount.padded (job 3 0).memory ≤ halved.total "ci" ResourceName.mem := by
    decide +kernel
  obtain ⟨claimed, -⟩ := scalars_suffice_iff offered nonneg cpus mem
  refine ⟨by decide +kernel, ?_, ?_⟩
  · intro task built
    exact (claimed (launcherOf "ci") [] task rfl built).1
  · apply Offer.reports_iff.2
    decide +kernel

end Plain

end OfferDispatch
