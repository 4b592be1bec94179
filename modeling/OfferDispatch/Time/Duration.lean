import OfferDispatch.Text.Natural

/-!
# Durations

A duration is a whole number of nanoseconds. In a message it is written in the largest unit of
which it holds at least one, with as many decimals as it needs and no more.
-/

namespace OfferDispatch

/-- A span of time, in nanoseconds. -/
structure Duration where
  nanos : Nat
  deriving DecidableEq, Repr, Inhabited

namespace Duration

def ofSeconds (n : Nat) : Duration := ⟨n * 1000000000⟩

def ofMillis (n : Nat) : Duration := ⟨n * 1000000⟩

def seconds (d : Duration) : Nat := d.nanos / 1000000000

/-- The nanoseconds beyond the whole seconds. -/
def subsecond (d : Duration) : Nat := d.nanos % 1000000000

def millis (d : Duration) : Nat := d.nanos / 1000000

/-- The milliseconds that a timer set to a duration takes: timers go off on whole milliseconds. -/
def millisUp (d : Duration) : Nat := (d.nanos + 999999) / 1000000

@[simp] theorem millisUp_ofMillis (n : Nat) : (ofMillis n).millisUp = n := by
  simp only [millisUp, ofMillis]
  omega

@[simp] theorem seconds_ofSeconds (n : Nat) : (ofSeconds n).seconds = n := by
  simp [seconds, ofSeconds]

@[simp] theorem millis_ofMillis (n : Nat) : (ofMillis n).millis = n := by
  simp [millis, ofMillis]

/-- A quotient with the decimals of its fraction, which is below `10 ^ places`. -/
def withFraction (whole fraction places : Nat) : List Char :=
  let digits := (Text.padded places fraction).reverse.dropWhile (· == '0')
  Text.decimal whole ++ (if digits.isEmpty then [] else '.' :: digits.reverse)

/-- A duration in words, such as `1.5s` or `50ms`. -/
def text (d : Duration) : String :=
  if 1000000000 ≤ d.nanos then
    String.ofList (withFraction d.seconds d.subsecond 9) ++ "s"
  else if 1000000 ≤ d.nanos then
    String.ofList (withFraction (d.nanos / 1000000) (d.nanos % 1000000) 6) ++ "ms"
  else if 1000 ≤ d.nanos then
    String.ofList (withFraction (d.nanos / 1000) (d.nanos % 1000) 3) ++ "µs"
  else String.ofList (Text.decimal d.nanos) ++ "ns"

end Duration

end OfferDispatch
