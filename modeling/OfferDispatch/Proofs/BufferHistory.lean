import Mathlib.Data.List.Induction
import OfferDispatch.Offer.Buffer

/-!
# What becomes of buffered offers

Those who deliver offers, take them back, fetch them or break off a wait share a buffer, and each
does one thing at a time. A consumer takes all that is there. If nothing is, it may wait, and looks
again whenever it is woken, be it for an offer, because its time is over or for no reason at all; a
wait that has been broken off since it began ends when the consumer finds nothing.

A register notes the offers that were accepted, in their order, and what has become of each: it
waits, it was handed to a consumer, or it was taken back. In whatever order things are done, the
buffer holds what waits, the batches that were handed out are, one after another, what was handed
out, and nothing that waits was accepted before something that was handed out. So offers come out in
the order in which they were accepted, none is lost and none comes out twice.
-/

namespace OfferDispatch

variable {α : Type}

namespace OfferBuffer

variable {b : OfferBuffer α}

theorem isFull_iff : b.isFull = true ↔ b.capacity ≠ 0 ∧ b.capacity ≤ b.offers.length := by
  simp [isFull]

theorem isOffer_iff {id : OfferId} {o : Offer α} : isOffer id o = true ↔ o.id = id := beq_iff_eq

theorem remove_fst_iff {id : OfferId} : (b.remove id).1 = true ↔ ∃ o ∈ b.offers, o.id = id := by
  rw [remove]
  split
  · next found => simpa [isOffer_iff] using found
  · next none => simpa [isOffer_iff] using none

/-- An offer that is not there cannot be taken back, and nothing changes. -/
theorem remove_of_fst_eq_false {id : OfferId} (missing : (b.remove id).1 = false) :
    (b.remove id).2 = b := by
  rw [remove] at missing ⊢
  split at missing
  · cases missing
  · next none => rw [if_neg none]

/-- Taking back an offer takes the oldest of its name out of the buffer, if there is one. -/
theorem offers_remove (b : OfferBuffer α) (id : OfferId) :
    (b.remove id).2.offers = b.offers.eraseP (isOffer id) := by
  rw [remove]
  split
  · rfl
  · next none =>
      refine (List.eraseP_of_forall_not ?_).symm
      intro o member found
      exact none (List.any_eq_true.2 ⟨o, member, found⟩)

end OfferBuffer

/-! ## The register -/

/-- What has become of an offer that was accepted. -/
inductive Fate
  | waits
  | handed
  | withdrawn
  deriving DecidableEq, Repr

structure Entry (α : Type) where
  offer : Offer α
  fate : Fate

/-- The offers that were accepted, the earliest first. -/
abbrev Register (α : Type) := List (Entry α)

namespace Register

/-- The offers of which the same has become. -/
def having (fate : Fate) (r : Register α) : List (Offer α) :=
  (r.filter fun e => e.fate = fate).map (·.offer)

/-- The offers that were not taken back. -/
def standing (r : Register α) : List (Offer α) :=
  (r.filter fun e => e.fate ≠ .withdrawn).map (·.offer)

/-- All that waits is handed to a consumer. -/
def hand (r : Register α) : Register α :=
  r.map fun e => if e.fate = .waits then { e with fate := .handed } else e

/-- The oldest offer of a name that waits is taken back. -/
def withdraw (id : OfferId) : Register α → Register α
  | [] => []
  | e :: rest =>
    if e.fate = .waits ∧ e.offer.id = id then { e with fate := .withdrawn } :: rest
    else e :: withdraw id rest

/-- What was handed out was accepted before all that waits. -/
def InOrder (r : Register α) : Prop :=
  r.Pairwise fun earlier later => earlier.fate = .waits → later.fate ≠ .handed

variable {r s : Register α} {e : Entry α}

@[simp] theorem having_append (fate : Fate) :
    having fate (r ++ s) = having fate r ++ having fate s := by
  simp [having]

theorem having_cons (fate : Fate) :
    having fate (e :: r) = if e.fate = fate then e.offer :: having fate r else having fate r := by
  by_cases same : e.fate = fate <;> simp [having, same]

theorem standing_cons :
    standing (e :: r) = if e.fate = .withdrawn then standing r else e.offer :: standing r := by
  by_cases gone : e.fate = .withdrawn <;> simp [standing, gone]

@[simp] theorem having_waits_hand (r : Register α) : having .waits r.hand = [] := by
  induction r with
  | nil => rfl
  | cons e rest ih =>
      rw [hand, List.map_cons, having_cons, ← hand, ih, if_neg]
      by_cases waits : e.fate = .waits <;> simp [waits]

@[simp] theorem having_handed_hand (r : Register α) : having .handed r.hand = standing r := by
  induction r with
  | nil => rfl
  | cons e rest ih =>
      rw [hand, List.map_cons, having_cons, ← hand, ih, standing_cons]
      cases fate : e.fate <;> simp [fate]

/-- In a register that is in order, what was handed out comes before what waits. -/
theorem InOrder.standing_eq (h : InOrder r) :
    standing r = having .handed r ++ having .waits r := by
  induction r with
  | nil => rfl
  | cons e rest ih =>
      obtain ⟨first, others⟩ := List.pairwise_cons.1 h
      rw [standing_cons, having_cons, having_cons, ih others]
      cases fate : e.fate with
      | handed | withdrawn => simp
      | waits =>
          -- Nothing behind an offer that waits has been handed out.
          have none : having .handed rest = [] := by
            rw [having, List.map_eq_nil_iff, List.filter_eq_nil_iff]
            intro later member
            simpa using first later member fate
          simp [none]

theorem inOrder_hand (r : Register α) : InOrder r.hand := by
  rw [InOrder, hand, List.pairwise_map]
  refine List.pairwise_of_forall ?_
  intro e later waits
  by_cases same : e.fate = .waits <;> simp [same] at waits

theorem InOrder.concat (h : InOrder r) (o : Offer α) : InOrder (r ++ [⟨o, .waits⟩]) := by
  refine List.pairwise_append.2 ⟨h, List.pairwise_singleton _ _, ?_⟩
  intro e _ last member _
  rw [List.mem_singleton.1 member]
  exact nofun

@[simp] theorem offers_hand (r : Register α) : r.hand.map (·.offer) = r.map (·.offer) := by
  rw [hand, List.map_map]
  refine List.map_congr_left ?_
  intro e _
  by_cases same : e.fate = .waits <;> simp [same]

@[simp] theorem offers_withdraw (id : OfferId) (r : Register α) :
    (withdraw id r).map (·.offer) = r.map (·.offer) := by
  induction r with
  | nil => rfl
  | cons e rest ih =>
      rw [withdraw]
      split
      · rfl
      · rw [List.map_cons, List.map_cons, ih]

theorem countP_withdrawn_hand (r : Register α) :
    r.hand.countP (fun e => e.fate = .withdrawn) = r.countP fun e => e.fate = .withdrawn := by
  rw [hand, List.countP_map]
  refine List.countP_congr ?_
  intro e _
  by_cases same : e.fate = .waits <;> simp [same]

/-- Something has become of every offer, and one thing only. -/
theorem length_eq (r : Register α) :
    r.length = (having .handed r).length + r.countP (fun e => e.fate = .withdrawn) +
      (having .waits r).length := by
  induction r with
  | nil => rfl
  | cons e rest ih =>
      rw [having_cons, having_cons, List.countP_cons, List.length_cons, ih]
      cases fate : e.fate <;> simp +arith

/-- Taking back an offer changes what has become of the oldest of its name that waits. -/
theorem exists_withdraw {id : OfferId} {o : Offer α} (waits : o ∈ having .waits r)
    (named : o.id = id) :
    ∃ before e after, r = before ++ e :: after ∧ e.fate = .waits ∧ e.offer.id = id ∧
      (∀ d ∈ before, d.fate = .waits → d.offer.id ≠ id) ∧
      withdraw id r = before ++ { e with fate := .withdrawn } :: after := by
  induction r with
  | nil => cases waits
  | cons e rest ih =>
      by_cases own : e.fate = .waits ∧ e.offer.id = id
      · exact ⟨[], e, rest, rfl, own.1, own.2, nofun, if_pos own⟩
      · have later : o ∈ having .waits rest := by
          rw [having_cons] at waits
          split at waits
          · next here =>
              obtain rfl | later := List.mem_cons.1 waits
              · exact absurd ⟨here, named⟩ own
              · exact later
          · exact waits
        obtain ⟨before, found, after, split, fate, same, none, taken⟩ := ih later
        refine ⟨e :: before, found, after, ?_, fate, same, ?_, ?_⟩
        · rw [split, List.cons_append]
        · refine List.forall_mem_cons.2 ⟨?_, none⟩
          exact fun here other => own ⟨here, other⟩
        · rw [withdraw, if_neg own, taken, List.cons_append]

/-- What is left when the oldest offer of a name that waits has been taken back. -/
theorem withdraw_spec {id : OfferId} {o : Offer α} (waits : o ∈ having .waits r)
    (named : o.id = id) :
    having .waits (withdraw id r) = (having .waits r).eraseP (OfferBuffer.isOffer id) ∧
      having .handed (withdraw id r) = having .handed r ∧
      (withdraw id r).countP (fun e => e.fate = .withdrawn) =
        r.countP (fun e => e.fate = .withdrawn) + 1 ∧
      (InOrder r → InOrder (withdraw id r)) := by
  obtain ⟨before, e, after, split, here, same, none, taken⟩ := exists_withdraw waits named
  rw [taken, split]
  refine ⟨?_, ?_, ?_, ?_⟩
  · have others : ∀ x ∈ having .waits before, ¬ OfferBuffer.isOffer id x = true := by
      intro x member found
      obtain ⟨d, kept, rfl⟩ := List.mem_map.1 member
      obtain ⟨earlier, fate⟩ := List.mem_filter.1 kept
      exact none d earlier (of_decide_eq_true fate) (OfferBuffer.isOffer_iff.1 found)
    rw [having_append, having_append, having_cons, having_cons, if_pos here,
      List.eraseP_append_right _ others,
      List.eraseP_cons_of_pos (OfferBuffer.isOffer_iff.2 same)]
    simp
  · simp [having_cons, here]
  · simp +arith [here]
  · intro ordered
    obtain ⟨left, rest, across⟩ := List.pairwise_append.1 ordered
    obtain ⟨-, right⟩ := List.pairwise_cons.1 rest
    refine List.pairwise_append.2 ⟨left, List.pairwise_cons.2 ⟨fun _ _ => nofun, right⟩, ?_⟩
    intro d earlier f later
    obtain rfl | later := List.mem_cons.1 later
    · exact fun _ => nofun
    · exact across d earlier f (List.mem_cons_of_mem _ later)

end Register

/-! ## One thing at a time -/

inductive BufferStep (α : Type)
  | enqueue (offer : Offer α)
  | remove (offer : OfferId)
  /-- A consumer takes what is there. -/
  | drain
  /-- A consumer takes what is there, and waits if nothing is. -/
  | await
  /-- One of the consumers that wait looks again, and its time may be over. -/
  | wake (index : Nat) (expired : Bool)
  /-- Those who wait are told not to. -/
  | interrupt

/-- A buffer and what has passed through it. -/
structure Passage (α : Type) where
  buffer : OfferBuffer α
  /-- How often waits were broken off. -/
  generation : Nat := 0
  /-- The consumers that wait: how often waits had been broken off when each of them came. -/
  waiting : List Nat := []
  /-- What consumers got, one after another. -/
  batches : List (List (Offer α)) := []
  register : Register α := []
  /-- The offers that were refused. -/
  refused : List (Offer α) := []
  /-- How often an offer was taken back. -/
  withdrawals : Nat := 0

namespace Passage

/-- A consumer takes what is there. -/
def hand (p : Passage α) : Passage α :=
  { p with
    buffer := p.buffer.drain.2
    batches := p.batches ++ [p.buffer.drain.1]
    register := p.register.hand }

def step (p : Passage α) : BufferStep α → Passage α
  | .enqueue o =>
    if (p.buffer.enqueue o).1 then
      { p with buffer := (p.buffer.enqueue o).2, register := p.register ++ [⟨o, .waits⟩] }
    else { p with buffer := (p.buffer.enqueue o).2, refused := p.refused ++ [o] }
  | .remove id =>
    if (p.buffer.remove id).1 then
      { p with
        buffer := (p.buffer.remove id).2
        register := p.register.withdraw id
        withdrawals := p.withdrawals + 1 }
    else { p with buffer := (p.buffer.remove id).2 }
  | .drain => p.hand
  | .await =>
    if p.buffer.offers.isEmpty then { p with waiting := p.waiting ++ [p.generation] } else p.hand
  | .wake index expired =>
    match p.waiting[index]? with
    | some came =>
      if p.buffer.offers.isEmpty then
        if came ≠ p.generation ∨ expired then
          { p with waiting := p.waiting.eraseIdx index, batches := p.batches ++ [[]] }
        else p
      else { p.hand with waiting := p.waiting.eraseIdx index }
    | none => p
  | .interrupt => { p with generation := p.generation + 1 }

/-- The offers that are accepted when something is done. -/
def accepts (p : Passage α) : BufferStep α → List (Offer α)
  | .enqueue o => if (p.buffer.enqueue o).1 then [o] else []
  | _ => []

def after (capacity : Nat) (steps : List (BufferStep α)) : Passage α :=
  steps.foldl step { buffer := { capacity := capacity } }

@[simp] theorem after_concat (capacity : Nat) (steps : List (BufferStep α)) (s : BufferStep α) :
    after capacity (steps ++ [s]) = (after capacity steps).step s := by
  simp [after]

/-- The register lists the offers in the order in which they are accepted. -/
theorem offers_step (p : Passage α) (s : BufferStep α) :
    (p.step s).register.map (·.offer) = p.register.map (·.offer) ++ p.accepts s := by
  have handed : p.hand.register.map (·.offer) = p.register.map (·.offer) ++ [] :=
    (Register.offers_hand _).trans (List.append_nil _).symm
  have same : p.register.map (·.offer) = p.register.map (·.offer) ++ [] :=
    (List.append_nil _).symm
  cases s with
  | enqueue o =>
      rw [step, accepts]
      split
      · simp
      · exact same
  | remove id =>
      rw [step]
      split
      · exact (Register.offers_withdraw id _).trans same
      · exact same
  | drain => exact handed
  | await =>
      rw [step]
      split
      · exact same
      · exact handed
  | wake index expired =>
      rw [step]
      split
      · split
        · split
          · exact same
          · exact same
        · exact handed
      · exact same
  | interrupt => exact same

/-- A consumer that waits while an offer arrives or waits are broken off gets what it is said to
get, and waits no longer. -/
theorem foldl_step_await (b : OfferBuffer α) (arrival : Option (Offer α)) :
    let p : Passage α := [.await, arrival.elim .interrupt .enqueue, .wake 0 false].foldl step
      { buffer := b }
    p.buffer = (b.await arrival).2 ∧ p.batches = [(b.await arrival).1] ∧ p.waiting = [] := by
  obtain ⟨limit, offers, added, dropped, removed⟩ := b
  cases offers with
  | nil =>
      cases arrival with
      | none => exact ⟨rfl, rfl, rfl⟩
      | some o =>
          have room : (⟨limit, [], added, dropped, removed⟩ : OfferBuffer α).isFull = false := by
            cases limit <;> rfl
          simp [step, OfferBuffer.await, OfferBuffer.enqueue, OfferBuffer.drain, hand, room]
  | cons first rest =>
      cases arrival with
      | none => exact ⟨rfl, rfl, rfl⟩
      | some o =>
          have room : (⟨limit, [], added, dropped, removed⟩ : OfferBuffer α).isFull = false := by
            cases limit <;> rfl
          simp [step, OfferBuffer.await, OfferBuffer.enqueue, OfferBuffer.drain, hand, room]

/-- What the buffer holds and what consumers got is what the register says, and the counts are
right. -/
structure Faithful (capacity : Nat) (p : Passage α) : Prop where
  capacity_eq : p.buffer.capacity = capacity
  content : p.buffer.offers = p.register.having .waits
  handed : p.batches.flatten = p.register.having .handed
  inOrder : p.register.InOrder
  bounded : capacity ≠ 0 → p.buffer.offers.length ≤ capacity
  added : p.buffer.added = (p.register.map (·.offer)).length
  dropped : p.buffer.dropped = p.refused.length
  removed : p.buffer.removed = p.withdrawals
  withdrawn : p.register.countP (fun e => e.fate = .withdrawn) = p.withdrawals

variable {capacity : Nat} {p : Passage α}

namespace Faithful

theorem hand (h : p.Faithful capacity) : p.hand.Faithful capacity where
  capacity_eq := h.capacity_eq
  content := (Register.having_waits_hand _).symm
  handed := by
    have all : p.batches.flatten ++ p.buffer.offers = p.register.standing := by
      rw [h.handed, h.content, h.inOrder.standing_eq]
    simpa [Passage.hand] using all
  inOrder := Register.inOrder_hand _
  bounded := fun _ => Nat.zero_le _
  added := h.added.trans (congrArg List.length (Register.offers_hand _).symm)
  dropped := h.dropped
  removed := h.removed
  withdrawn := (Register.countP_withdrawn_hand _).trans h.withdrawn

/-- It does not matter who waits. -/
theorem attended (h : p.Faithful capacity) (waiting : List Nat) :
    Faithful capacity { p with waiting := waiting } :=
  ⟨h.capacity_eq, h.content, h.handed, h.inOrder, h.bounded, h.added, h.dropped, h.removed,
    h.withdrawn⟩

theorem enqueue (h : p.Faithful capacity) (o : Offer α) :
    (p.step (.enqueue o)).Faithful capacity := by
  by_cases full : p.buffer.isFull = true
  · have refused : p.buffer.enqueue o =
        (false, { p.buffer with dropped := p.buffer.dropped + 1 }) := if_pos full
    simp only [step, refused, Bool.false_eq_true, if_false]
    exact { h with dropped := by simp [h.dropped] }
  · have accepted : p.buffer.enqueue o =
        (true, { p.buffer with
          offers := p.buffer.offers ++ [o]
          added := p.buffer.added + 1 }) := if_neg full
    simp only [step, accepted, if_true]
    refine ⟨h.capacity_eq, ?_, ?_, h.inOrder.concat o, ?_, ?_, h.dropped, h.removed, ?_⟩
    · simp [h.content, Register.having]
    · simp [h.handed, Register.having]
    · intro limited
      rw [OfferBuffer.isFull_iff, h.capacity_eq] at full
      simp only [List.length_append, List.length_singleton]
      omega
    · simp [h.added]
    · simp [h.withdrawn]

theorem remove (h : p.Faithful capacity) (id : OfferId) :
    (p.step (.remove id)).Faithful capacity := by
  by_cases found : (p.buffer.remove id).1 = true
  · obtain ⟨o, there, named⟩ := OfferBuffer.remove_fst_iff.1 found
    obtain ⟨waits, handed, withdrawn, inOrder⟩ :=
      Register.withdraw_spec (h.content ▸ there) named
    have taken : p.buffer.remove id =
        (true, { p.buffer with
          offers := p.buffer.offers.eraseP (OfferBuffer.isOffer id)
          removed := p.buffer.removed + 1 }) :=
      if_pos (List.any_eq_true.2 ⟨o, there, OfferBuffer.isOffer_iff.2 named⟩)
    simp only [step, taken, if_true]
    refine ⟨h.capacity_eq, ?_, ?_, inOrder h.inOrder, ?_, ?_, h.dropped, ?_, ?_⟩
    · rw [waits, h.content]
    · rw [handed, h.handed]
    · intro limited
      exact Nat.le_trans List.length_eraseP_le (h.bounded limited)
    · rw [Register.offers_withdraw, h.added]
    · rw [h.removed]
    · rw [withdrawn, h.withdrawn]
  · have missing := OfferBuffer.remove_of_fst_eq_false (Bool.eq_false_iff.2 found)
    simp only [step, if_neg found, missing]
    exact h

/-- Whatever is done, the register goes on to be right. -/
theorem step (h : p.Faithful capacity) (s : BufferStep α) : (p.step s).Faithful capacity := by
  cases s with
  | enqueue o => exact h.enqueue o
  | remove id => exact h.remove id
  | drain => exact h.hand
  | await =>
      rw [Passage.step]
      split
      · exact h.attended _
      · exact h.hand
  | wake index expired =>
      rw [Passage.step]
      split
      · split
        · split
          · exact { h.attended (p.waiting.eraseIdx index) with handed := by simp [h.handed] }
          · exact h
        · exact h.hand.attended _
      · exact h
  | interrupt => exact { h with }

end Faithful

theorem faithful_after (capacity : Nat) (steps : List (BufferStep α)) :
    (after capacity steps).Faithful capacity := by
  induction steps using List.reverseRecOn with
  | nil =>
      exact ⟨rfl, rfl, rfl, List.Pairwise.nil, fun _ => Nat.zero_le _, rfl, rfl, rfl, rfl⟩
  | append_singleton steps s ih =>
      rw [after_concat]
      exact ih.step s

/-- A buffer is a bounded queue from which nothing gets lost. In whatever order offers are
delivered, taken back and fetched, waited for and waits broken off: a buffer with a capacity never
holds more than that, and says how much room there is left. An offer is refused exactly if such a
buffer is full. The batches that were handed out, one after another, and then what is still there,
are the offers that were accepted, in their order, without those that were taken back. Each time an
offer is taken back, that is the oldest of its name that is there; if none is, nothing changes. The
counts say how many were accepted, refused and taken back. -/
theorem offers_pass_in_order (capacity : Nat) (steps : List (BufferStep α)) :
    let p := after capacity steps
    (capacity ≠ 0 → p.buffer.offers.length ≤ capacity ∧
      p.buffer.remaining + p.buffer.offers.length = capacity) ∧
    (∀ o, (p.buffer.enqueue o).1 = false ↔ capacity ≠ 0 ∧ p.buffer.offers.length = capacity) ∧
    (∀ s, (p.step s).register.map (·.offer) = p.register.map (·.offer) ++ p.accepts s) ∧
    p.batches.flatten ++ p.buffer.offers = p.register.standing ∧
    p.register.countP (fun e => e.fate = .withdrawn) = p.withdrawals ∧
    (∀ id, (p.buffer.remove id).1 = true ↔ ∃ o ∈ p.buffer.offers, o.id = id) ∧
    (∀ id, (p.buffer.remove id).1 = false → p.step (.remove id) = p) ∧
    (∀ id, (p.buffer.remove id).1 = true →
      ∃ before e after, p.register = before ++ e :: after ∧ e.fate = .waits ∧ e.offer.id = id ∧
        (∀ d ∈ before, d.fate = .waits → d.offer.id ≠ id) ∧
        (p.step (.remove id)).register = before ++ { e with fate := .withdrawn } :: after) ∧
    p.buffer.added = p.batches.flatten.length + p.buffer.removed + p.buffer.offers.length ∧
    p.buffer.removed = p.withdrawals ∧ p.buffer.dropped = p.refused.length := by
  intro p
  have h : p.Faithful capacity := faithful_after capacity steps
  refine ⟨?_, ?_, p.offers_step, ?_, h.withdrawn, fun _ => OfferBuffer.remove_fst_iff, ?_, ?_, ?_,
    h.removed, h.dropped⟩
  · intro limited
    have room := h.bounded limited
    rw [OfferBuffer.remaining, h.capacity_eq, if_neg limited]
    exact ⟨room, Nat.sub_add_cancel room⟩
  · intro o
    have refused : (p.buffer.enqueue o).1 = false ↔ p.buffer.isFull = true := by
      by_cases full : p.buffer.isFull = true <;> simp [OfferBuffer.enqueue, full]
    rw [refused, OfferBuffer.isFull_iff, h.capacity_eq]
    constructor
    · rintro ⟨limited, reached⟩
      exact ⟨limited, Nat.le_antisymm (h.bounded limited) reached⟩
    · rintro ⟨limited, reached⟩
      exact ⟨limited, Nat.le_of_eq reached.symm⟩
  · rw [h.inOrder.standing_eq, h.handed, h.content]
  · intro id missing
    simp only [step, missing, Bool.false_eq_true, if_false,
      OfferBuffer.remove_of_fst_eq_false missing]
  · intro id found
    obtain ⟨o, there, named⟩ := OfferBuffer.remove_fst_iff.1 found
    simp only [step, found, if_true]
    exact Register.exists_withdraw (h.content ▸ there) named
  · rw [h.added, List.length_map, h.removed, h.handed, h.content, Register.length_eq, h.withdrawn]

end Passage

namespace Plain

def bare (id : String) : Offer Unit := ⟨⟨id⟩, ⟨"agent"⟩, "host", [], [], none⟩

/-- Two offers of one name are buffered behind another one, of which the latter is taken back. -/
def crowd : List (BufferStep Unit) :=
  [.await, .enqueue (bare "o"), .wake 0 false, .enqueue (bare "p"), .enqueue (bare "q"),
    .enqueue (bare "q"), .enqueue (bare "r"), .remove ⟨"p"⟩, .interrupt]

/-- The buffer has room again, and the first of the two would be taken back next. -/
theorem offers_pass_in_order_crowd :
    let p := Passage.after 3 crowd
    3 ≠ 0 ∧ p.buffer.remaining + p.buffer.offers.length = 3 ∧
      (p.buffer.remove ⟨"p"⟩).1 = false ∧ p.step (.remove ⟨"p"⟩) = p ∧
      (p.buffer.remove ⟨"q"⟩).1 = true ∧
      (∃ before e after, p.register = before ++ e :: after ∧ e.fate = .waits ∧
        e.offer.id = ⟨"q"⟩ ∧ (∀ d ∈ before, d.fate = .waits → d.offer.id ≠ ⟨"q"⟩) ∧
        (p.step (.remove ⟨"q"⟩)).register = before ++ { e with fate := .withdrawn } :: after) ∧
      p.batches.flatten ++ p.buffer.offers = [bare "o", bare "q", bare "q"] ∧
      p.refused = [bare "r"] := by
  intro p
  have missing : (p.buffer.remove ⟨"p"⟩).1 = false := by decide
  have found : (p.buffer.remove ⟨"q"⟩).1 = true := by decide
  obtain ⟨bounded, -, -, -, -, -, kept, taken, -, -, -⟩ := Passage.offers_pass_in_order 3 crowd
  exact ⟨by decide, (bounded (by decide)).2, missing, kept _ missing, found, taken _ found,
    by decide, by decide⟩

end Plain

end OfferDispatch
