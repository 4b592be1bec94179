import OfferDispatch.Error
import OfferDispatch.Scheduler.Readiness

/-!
# Waiting for a worker

A watch looks at a worker at once and then every so often, until it is ready, has failed, or a
deadline has passed. Time is counted in nanoseconds, but timers go off on whole milliseconds, so
that a look or the deadline may come a little late. A look that is due at the deadline still counts.

A look may itself take time. One that is missed for this reason is made as soon as possible; if it
is more than five milliseconds late, the looks after it are counted from then, and otherwise the
schedule is kept.
-/

namespace OfferDispatch

structure Watch where
  /-- The time between two looks. -/
  period : Nat
  /-- When the next look is due. -/
  due : Nat
  deadline : Nat
  deriving DecidableEq, Repr, Inhabited

namespace Watch

/-- The millisecond in which a timer goes off that is set to an instant. -/
def wake (instant : Nat) : Nat := Duration.millisUp ⟨instant⟩

/-- How late a look may be without moving those after it. -/
def tolerance : Nat := 5000000

/-- A watch that begins at a millisecond. Looks are at least a millisecond apart. -/
def start (now : Nat) (interval limit : Duration) : Watch where
  period := max interval.nanos 1000000
  due := now * 1000000
  deadline := now * 1000000 + limit.nanos

def looksAt (w : Watch) : Nat := wake w.due

def endsAt (w : Watch) : Nat := wake w.deadline

/-- The millisecond in which the watch has something to do. -/
def nextAt (w : Watch) : Nat := min w.looksAt w.endsAt

/-- The watch after a look that began at a millisecond. -/
def looked (w : Watch) (now : Nat) : Watch :=
  { w with
    due := if w.due + tolerance < now * 1000000 then now * 1000000 + w.period
      else w.due + w.period }

end Watch

/-- Begins to wait for a worker, unless nothing is known of it. -/
def Scheduler.await {δ κ : Type} (s : Scheduler δ κ) (now : Nat) (worker : TaskId)
    (interval limit : Duration) : Except WaitError Watch :=
  if s.isAwaitable worker then .ok (.start now interval limit) else .error (.unknownTask worker)

/-- A look at a worker, and how many milliseconds it takes. -/
structure Look where
  shows : Readiness
  takes : Nat
  deriving DecidableEq, Repr, Inhabited

structure Waited where
  result : Except WaitError Unit
  /-- The milliseconds in which looks began. -/
  lookedAt : List Nat
  /-- How many milliseconds it took. -/
  elapsed : Nat

/-- Waits on with a watch, from a millisecond and a number of looks on. -/
def waitFrom (look : Nat → Look) (limit : Duration) :
    (fuel : Nat) → Watch → (index now : Nat) → List Nat → Waited
  | 0, w, _, _, lookedAt => ⟨.error (.timeout limit), lookedAt, w.endsAt⟩
  | fuel + 1, w, index, now, lookedAt =>
    let begins := max now w.looksAt
    if begins ≤ w.endsAt then
      let lookedAt := lookedAt ++ [begins]
      let ends := begins + (look index).takes
      if ends ≤ w.endsAt then
        match (look index).shows with
        | .ready => ⟨.ok (), lookedAt, ends⟩
        | .failed reason => ⟨.error (.terminal reason), lookedAt, ends⟩
        | .pending => waitFrom look limit fuel (w.looked begins) (index + 1) ends lookedAt
      else ⟨.error (.timeout limit), lookedAt, w.endsAt⟩
    else ⟨.error (.timeout limit), lookedAt, w.endsAt⟩

/-- Waits for a worker that is looked at in a given way. Looks are due at least a millisecond apart,
so that no more can be made than there are milliseconds before the deadline.

A tally of the looks, which is written to the log and nowhere else, is left out. Kept in 32 bits
with a check for overflow, it would break the wait off at the look numbered `2 ^ 32`, some fifty days
later at the earliest. -/
def waitOnline (look : Nat → Look) (interval limit : Duration) : Waited :=
  let watch := Watch.start 0 interval limit
  waitFrom look limit (watch.endsAt + 2) watch 0 0 []

end OfferDispatch
