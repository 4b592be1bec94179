import OfferDispatch.Id.Name
import OfferDispatch.Id.Ulid

/-!
# Framework ids and fresh names

A framework is known to the cluster by an id of its own: a mark, an underscore and a base-32 number.
Ids are ordered as their numbers are. Workers that the host does not name itself get a fresh name
made of a stem and a base-32 number in small letters.
-/

namespace OfferDispatch

structure FrameworkId where
  ulid : Ulid
  deriving DecidableEq, Repr, Inhabited

namespace FrameworkId

/-- What every framework id begins with, before the underscore. -/
def mark : String := "fw"

def text (id : FrameworkId) : String := mark ++ "_" ++ id.ulid.text

/-- Splits a text at its first underscore. -/
def splitAtSeparator : List Char → Option (List Char × List Char)
  | [] => none
  | '_' :: rest => some ([], rest)
  | c :: rest => (splitAtSeparator rest).map fun p => (c :: p.1, p.2)

def parse (s : String) : Except IdError FrameworkId :=
  if s.isEmpty then .error .empty
  else match splitAtSeparator s.toList with
    | none => .error .missingSeparator
    | some (before, after) =>
      if String.ofList before ≠ mark then .error (.wrongMark mark (String.ofList before))
      else match Ulid.parse (String.ofList after) with
        | .error fault => .error (.invalidUlid fault)
        | .ok ulid => .ok ⟨ulid⟩

instance : LT FrameworkId := ⟨fun a b => a.ulid < b.ulid⟩

instance : LE FrameworkId := ⟨fun a b => a.ulid ≤ b.ulid⟩

instance (a b : FrameworkId) : Decidable (a < b) := inferInstanceAs (Decidable (a.ulid < b.ulid))

instance (a b : FrameworkId) : Decidable (a ≤ b) := inferInstanceAs (Decidable (a.ulid ≤ b.ulid))

end FrameworkId

/-- A fresh worker name: a stem, a hyphen and a number. The stem is taken as it is. -/
def Name.generate (stem : String) (fresh : Ulid) : TaskId :=
  ⟨stem ++ "-" ++ String.ofList (fresh.text.toList.map Char.toLower)⟩

end OfferDispatch
