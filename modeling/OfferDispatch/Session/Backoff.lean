import OfferDispatch.Power
import OfferDispatch.Time.Duration

/-!
# Waiting between attempts

The wait doubles from one attempt to the next up to a limit, and is then lengthened or shortened by
a random share of itself. Here the share is not drawn: what is computed is the shortest and the
longest wait it can lead to. All of it is done in floats, in milliseconds.
-/

namespace OfferDispatch

structure Backoff where
  base : Duration := .ofSeconds 3
  limit : Duration := .ofSeconds 30
  /-- The largest share by which a wait varies, from zero to one. -/
  jitter : Float := 0.25
  deriving Repr

namespace Backoff

/-- The wait before it is varied. The doubling stops at the thirty-first attempt. -/
def steady (b : Backoff) (attempt : Nat) : Float :=
  let wait := Float.ofNat b.base.millis * Float.ofNat (2 ^ min attempt 30)
  let limit := Float.ofNat b.limit.millis
  if wait < limit then wait else limit

/-- By how much a wait can vary. What is not a number or negative counts as no variation. -/
def spread (b : Backoff) (attempt : Nat) : Float :=
  let share := if b.jitter < 0.0 then 0.0 else if b.jitter > 1.0 then 1.0 else b.jitter
  let range := b.steady attempt * share
  if range > 0.0 then range else 0.0

/-- A wait of so many milliseconds; a negative one is none, and fractions are dropped. -/
def wait (millis : Float) : Duration :=
  .ofMillis (if millis > 0.0 then millis else 0.0).toUInt64.toNat

def shortest (b : Backoff) (attempt : Nat) : Duration :=
  wait (b.steady attempt + -(b.spread attempt))

def longest (b : Backoff) (attempt : Nat) : Duration :=
  wait (b.steady attempt + b.spread attempt)

end Backoff

end OfferDispatch
