/-!
# Powers of numbers

Whatever multiplies can be raised to a power, and numbers do so in more than one way. Here a power
of natural numbers is always the one that they bring along, whatever else is in scope, so that it
means and computes the same wherever it is written.
-/

namespace OfferDispatch

attribute [scoped instance (1100)] instPowNat
attribute [default_instance 20000] instPowNat

end OfferDispatch
