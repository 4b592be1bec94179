import OfferDispatch.Id.FrameworkId

/-!
# Frameworks
-/

namespace OfferDispatch

structure FrameworkInfo where
  name : String
  user : String
  role : String
  principal : String
  /-- The id of an earlier registration, to take it up again. -/
  id : Option FrameworkId
  deriving DecidableEq, Repr, Inhabited

end OfferDispatch
