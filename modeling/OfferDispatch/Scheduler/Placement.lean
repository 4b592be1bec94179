import OfferDispatch.Matching.Evaluate
import OfferDispatch.Scheduler.State

/-!
# Placing workers on offers

A batch of offers is gone through once, offers of remembered agents first. Each offer takes the
earliest request that it satisfies, if there is one, and is declined otherwise: for long if nobody
waits at all, and shortly if its agent is down, if it satisfies nobody, or if the launch fails. A
request whose launch fails has failed for good.
-/

namespace OfferDispatch

structure Placement (δ κ : Type) where
  scheduler : Scheduler δ κ
  /-- Offers to decline, and for how long. -/
  declines : List (OfferId × Duration)
  notices : List (Notice κ)

namespace Placement

variable {δ κ : Type}

def decline (p : Placement δ κ) (o : Offer Float) (refuse : Duration) : Placement δ κ :=
  { p with declines := p.declines ++ [(o.id, refuse)] }

variable [ClusterDriver δ]

/-- Launches a request that has been taken from the queue. -/
def launch (p : Placement δ κ) (o : Offer Float) (r : Request κ) (rest : RequestQueue κ) :
    Placement δ κ :=
  let s := p.scheduler
  let submitted := s.launcher.submit s.session.link o r
    (o.allocation s.settings.role r.spec) s.tracker
  let s := { s with
    requests := rest
    tracker := submitted.tracker
    session := { s.session with link := submitted.link } }
  match submitted.result with
  | .ok _ => { p with scheduler := { s with
      unmatched := s.unmatched.filter (· != r.spec.label)
      affinity := remember s.settings.affinitySize o.agent s.affinity } }
  | .error _ =>
    { p with scheduler := s, notices := p.notices ++ submitted.notices }.decline o shortDecline

def offer (now : Instant) (p : Placement δ κ) (o : Offer Float) : Placement δ κ :=
  let s := p.scheduler
  if s.requests.isEmpty then
    { p with scheduler := { s with unmatched := [] } }.decline o s.settings.declineFor
  else if o.isAvailable now then
    match s.requests.take? fun r => o.satisfies s.settings.role r.spec with
    | some (r, rest) => p.launch o r rest
    | none => p.decline o shortDecline
  else p.decline o shortDecline

end Placement

namespace Scheduler

variable {δ κ : Type}

/-- Adds the labels of those that still wait to the unmatched ones. -/
def noteUnmatched (s : Scheduler δ κ) : Scheduler δ κ :=
  { s with unmatched := s.requests.labels.foldr addLabel s.unmatched }

def place [ClusterDriver δ] (now : Instant) (s : Scheduler δ κ) (batch : List (Offer Float)) :
    Placement δ κ :=
  let placed := (arrangeByAffinity s.affinity batch).foldl (Placement.offer now) ⟨s, [], []⟩
  { placed with scheduler := placed.scheduler.noteUnmatched }

end Scheduler

end OfferDispatch
