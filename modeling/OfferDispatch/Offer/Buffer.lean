import OfferDispatch.Offer.Basic
import OfferDispatch.Power

/-!
# The offer buffer

Offers wait in the order in which they came until all of them are taken together. The buffer holds
a bounded number of them, or any number if its capacity is zero, and counts what passes through.
-/

namespace OfferDispatch

structure OfferBuffer (α : Type) where
  /-- Zero stands for any number of offers. -/
  capacity : Nat
  offers : List (Offer α) := []
  /-- How many offers were accepted. -/
  added : Nat := 0
  /-- How many offers were refused. -/
  dropped : Nat := 0
  /-- How many offers were taken back. -/
  removed : Nat := 0
  deriving Repr, Inhabited

namespace OfferBuffer

variable {α : Type}

def isFull (b : OfferBuffer α) : Bool := b.capacity != 0 && decide (b.capacity ≤ b.offers.length)

/-- Accepts an offer if there is room for it. -/
def enqueue (b : OfferBuffer α) (o : Offer α) : Bool × OfferBuffer α :=
  if b.isFull then (false, { b with dropped := b.dropped + 1 })
  else (true, { b with offers := b.offers ++ [o], added := b.added + 1 })

def drain (b : OfferBuffer α) : List (Offer α) × OfferBuffer α :=
  (b.offers, { b with offers := [] })

/-- What a consumer takes that waits while an offer arrives or the wait is broken off: what is there
if anything is, and otherwise the offer that arrives. -/
def await (b : OfferBuffer α) (arrival : Option (Offer α)) : List (Offer α) × OfferBuffer α :=
  let arrive (b : OfferBuffer α) := match arrival with
    | some o => (b.enqueue o).2
    | none => b
  if b.offers.isEmpty then (arrive b).drain else (b.offers, arrive b.drain.2)

def isOffer (id : OfferId) (o : Offer α) : Bool := o.id == id

/-- Takes an offer back, the oldest of its name. -/
def remove (b : OfferBuffer α) (id : OfferId) : Bool × OfferBuffer α :=
  if b.offers.any (isOffer id) then
    (true, { b with offers := b.offers.eraseP (isOffer id), removed := b.removed + 1 })
  else (false, b)

/-- How many more offers there is room for; a buffer for any number says the largest number of 64
bits. -/
def remaining (b : OfferBuffer α) : Nat :=
  if b.capacity = 0 then 2 ^ 64 - 1 else b.capacity - b.offers.length

@[simp] theorem drain_fst (b : OfferBuffer α) : b.drain.1 = b.offers := rfl

@[simp] theorem offers_drain (b : OfferBuffer α) : b.drain.2.offers = [] := rfl

end OfferBuffer

end OfferDispatch
