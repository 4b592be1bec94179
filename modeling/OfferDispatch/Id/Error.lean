/-!
# What is wrong with an id
-/

namespace OfferDispatch

/-- Why a text is not twenty-six base-32 digits. -/
inductive UlidFault
  | length
  | character
  deriving DecidableEq, Repr

def UlidFault.message : UlidFault → String
  | length => "invalid length"
  | character => "invalid character"

inductive IdError
  | empty
  | missingSeparator
  /-- The part before the separator is not the one expected. -/
  | wrongMark (expected actual : String)
  | invalidUlid (fault : UlidFault)
  /-- A name contains a blank. -/
  | blankInside (text : String)
  deriving DecidableEq, Repr

namespace IdError

def message : IdError → String
  | empty => "ID cannot be empty"
  | missingSeparator => "ID missing underscore separator"
  | wrongMark expected actual => s!"invalid ID prefix: expected '{expected}', got '{actual}'"
  | invalidUlid fault => s!"invalid ULID: {fault.message}"
  | blankInside text => s!"invalid ID '{text}': must not contain whitespace"

/-- Was there no text at all? -/
def isEmpty : IdError → Bool
  | empty => true
  | _ => false

end IdError

end OfferDispatch
