import OfferDispatch.Id.Error
import OfferDispatch.Text.Blank

/-!
# Names

Offers, agents and tasks are named from outside, by exact texts. A valid name has at least one
character and none that is blank. The kinds of names are kept apart by their type.
-/

namespace OfferDispatch

inductive Named
  | offer
  | agent
  | task
  deriving DecidableEq, Repr

structure Name (of : Named) where
  text : String
  deriving DecidableEq, Repr, Inhabited

abbrev OfferId := Name .offer

abbrev AgentId := Name .agent

/-- The name of a worker, which is also that of its task. -/
abbrev TaskId := Name .task

namespace Name

variable {kind : Named}

def isValidText (s : String) : Bool := !s.isEmpty && !s.toList.any Text.isBlank

/-- Is the name one that can be read back? -/
def IsValid (n : Name kind) : Prop := isValidText n.text = true

instance (n : Name kind) : Decidable n.IsValid := inferInstanceAs (Decidable (_ = true))

def parse (s : String) : Except IdError (Name kind) :=
  if s.isEmpty then .error .empty
  else if s.toList.any Text.isBlank then .error (.blankInside s)
  else .ok ⟨s⟩

theorem parse_eq_ok_iff {s : String} {n : Name kind} :
    parse s = .ok n ↔ isValidText s = true ∧ n.text = s := by
  unfold parse isValidText
  split
  · next h => simp [h]
  · next h =>
    split
    · next b => simp [b]
    · next b =>
      cases n
      simp [h, b, eq_comm]

end Name

end OfferDispatch
