import OfferDispatch.Power

/-!
# Supervision

A session that has nothing to do is torn down: no worker waits, no task is live, and the host has no
worker nodes left. When the nodes are gone but tasks are still live, their end must have been
missed, and they are given up first. One supervisor may look after several schedulers.
-/

namespace OfferDispatch

structure Settled where
  pending : Nat
  /-- Live tasks that are left. -/
  active : Nat
  nodes : Nat
  /-- Live tasks that were given up. -/
  cleared : Nat
  stopped : Bool
  deriving DecidableEq, Repr, Inhabited

inductive Decision
  | retained (pending active nodes : Nat)
  | tornDown
  | alreadyStopped
  deriving DecidableEq, Repr, Inhabited

namespace Settled

def decision (s : Settled) : Decision :=
  if s.stopped then .tornDown else .retained s.pending s.active s.nodes

end Settled

/-- What can be supervised. -/
class Supervised (τ : Type) where
  isRunning : τ → Bool
  /-- Gives up live tasks if there are no nodes, and stops the session if nothing is left. -/
  settle : (nodes : Nat) → τ → Settled × τ

section

variable {τ : Type} [Supervised τ]

def supervise (nodes : Nat) (target : τ) : Decision × τ :=
  if Supervised.isRunning target then
    let settled := Supervised.settle nodes target
    (settled.1.decision, settled.2)
  else (.alreadyStopped, target)

/-- Supervises targets in their order. -/
def superviseAll (nodes : Nat) : List τ → List Decision × List τ
  | [] => ([], [])
  | target :: rest =>
    let first := supervise nodes target
    let others := superviseAll nodes rest
    (first.1 :: others.1, first.2 :: others.2)

end

/-- The number of worker nodes, for a host that has no registry of its own. -/
structure NodeCount where
  count : Nat
  deriving DecidableEq, Repr, Inhabited

namespace NodeCount

/-- A node is added; the count wraps around at 64 bits. -/
def add (n : NodeCount) : NodeCount := ⟨(n.count + 1) % 2 ^ 64⟩

def remove (n : NodeCount) : NodeCount := ⟨n.count - 1⟩

end NodeCount

end OfferDispatch
