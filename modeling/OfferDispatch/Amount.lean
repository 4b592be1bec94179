/-!
# Amounts

What scalar resources are measured in. Offers, workers and claims are stated for any kind of amount,
so that they can be run on floats and reasoned about on numbers that compute exactly.

A comparison with an amount that is not a number fails, and of two amounts the least is the one that
is a number.
-/

namespace OfferDispatch

/-- A kind of amount. -/
class Amount (α : Type) where
  /-- Is the first amount at most the second? -/
  le : α → α → Bool
  add : α → α → α
  sub : α → α → α
  /-- The smaller of two amounts. -/
  least : α → α → α
  zero : α
  /-- The sum of no amounts. -/
  nothing : α
  /-- What stands for a resource that is not there. -/
  missing : α
  /-- What a worker with so many megabytes of heap takes: a tenth more. -/
  padded : UInt32 → α

namespace Amount

variable {α : Type} [Amount α]

def sum (amounts : List α) : α := amounts.foldl add nothing

end Amount

instance : Amount Float where
  le x y := decide (x ≤ y)
  add x y := x + y
  sub x y := x - y
  least x y := if x.isNaN then y else if y.isNaN then x else if x < y then x else y
  zero := 0.0
  nothing := -0.0
  missing := -1.0
  padded memory := (1.0 + 0.1) * memory.toFloat

end OfferDispatch
