import OfferDispatch.Decimal.Layout
import OfferDispatch.Text.Natural

/-!
# Documents

The values of JSON. A number is a whole number or a float, as its numeral was written; the fields of
an object that was read are in ascending order of their keys, each of which occurs once.
-/

namespace OfferDispatch

inductive Number
  | int (n : Int)
  | float (x : Float)
  deriving Repr

namespace Number

def text : Number → String
  | int n => toString n
  | float x => Layout.document.text x

def toFloat : Number → Float
  | int n => Float.ofInt n
  | float x => x

end Number

inductive Json
  | null
  | bool (b : Bool)
  | num (n : Number)
  | str (s : String)
  | arr (items : List Json)
  | obj (fields : List (String × Json))
  deriving Inhabited

namespace Json

/-- The value of a field, if the document is an object that has it. -/
def field? (key : String) : Json → Option Json
  | obj fields => fields.lookup key
  | _ => none

def ofNat (n : Nat) : Json := num (.int n)

/-- A text, or null. -/
def ofOption (s : Option String) : Json := (s.map str).getD null

end Json

end OfferDispatch
