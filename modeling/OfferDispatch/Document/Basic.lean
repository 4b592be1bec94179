import OfferDispatch.Id.FrameworkId
import OfferDispatch.Json.Basic
import OfferDispatch.Time.Instant

/-!
# Values as documents

How values are written as documents and read back. A record is an object with a field for each part,
or an array of exactly its parts in order; a missing field counts as null, and fields that are not
asked for are passed over. An optional part is null when it is absent. A choice without content is
its name, or an object with that name for its only key and null for its value.
-/

namespace OfferDispatch

/-- Values that have a form as documents. -/
class Document (α : Type) where
  encode : α → Json
  decode? : Json → Option α

namespace Document

variable {α β : Type}

/-! ## Records and choices -/

/-- The parts of a record with the given names, in their order. -/
def parts? (names : List String) (document : Json) : Option (List Json) :=
  match document with
  | .obj fields => some (names.map fun name => (fields.lookup name).getD .null)
  | .arr items => if items.length = names.length then some items else none
  | _ => none

def choice? : Json → Option String
  | .str name => some name
  | .obj [(name, .null)] => some name
  | _ => none

def text? : Json → Option String
  | .str s => some s
  | _ => none

/-! ## Plain values -/

instance : Document String where
  encode := .str
  decode? := text?

instance : Document Bool where
  encode := .bool
  decode?
    | .bool b => some b
    | _ => none

/-- A whole number below a bound. -/
def nat? (bound : Nat) : Json → Option Nat
  | .num (.int n) => if 0 ≤ n ∧ n < bound then some n.toNat else none
  | _ => none

instance : Document UInt32 where
  encode n := .ofNat n.toNat
  decode? document := (nat? UInt32.size document).map UInt32.ofNat

instance : Document UInt64 where
  encode n := .ofNat n.toNat
  decode? document := (nat? UInt64.size document).map UInt64.ofNat

/-- A float; one that is not finite has no form of its own. -/
instance : Document Float where
  encode x := if x.isFinite then .num (.float x) else .null
  decode?
    | .num n => some n.toFloat
    | _ => none

instance [Document α] : Document (Option α) where
  encode
    | some a => encode a
    | none => .null
  decode?
    | .null => some none
    | document => (decode? document).map some

instance [Document α] : Document (List α) where
  encode items := .arr (items.map encode)
  decode?
    | .arr items => items.mapM decode?
    | _ => none

instance [Document α] [Document β] : Document (α × β) where
  encode pair := .arr [encode pair.1, encode pair.2]
  decode?
    | .arr [a, b] => do return (← decode? a, ← decode? b)
    | _ => none

/-! ## Ids and instants -/

instance {kind : Named} : Document (Name kind) where
  encode name := .str name.text
  decode? document := (text? document).bind fun s => (Name.parse s).toOption

instance : Document FrameworkId where
  encode id := .str id.text
  decode? document := (text? document).bind fun s => (FrameworkId.parse s).toOption

instance : Document Instant where
  encode t := .str t.text
  decode? document := (text? document).bind Instant.read?

end Document

end OfferDispatch
