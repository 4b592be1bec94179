import OfferDispatch.Json.Reader
import OfferDispatch.Offer.Basic
import OfferDispatch.Text.Blank

/-!
# Selectors

A selector asks for agents with certain attributes, by name and value. Operators write selectors as
JSON objects, one for each label of workers. What they write is read leniently: a selector that is
not a flat object constrains nothing, and an entry that is no selector is passed over, so that a
mistake never holds up every offer.
-/

namespace OfferDispatch

/-- The attributes an agent must have: a value for each name. -/
structure Selector where
  pairs : Table String
  deriving DecidableEq, Inhabited

namespace Selector

def any : Selector := ⟨.empty⟩

/-- The selector that pairs build up; a later pair replaces an earlier one of its name. -/
def ofPairs (pairs : List (String × String)) : Selector := ⟨Table.ofList pairs⟩

def isEmpty (s : Selector) : Bool := s.pairs.isEmpty

def carries (attributes : List Attribute) (pair : String × String) : Bool :=
  attributes.any fun a => a.name == pair.1 && a.value == pair.2

/-- The pairs that are not among the attributes, in ascending order of their names. -/
def unmet (s : Selector) (attributes : List Attribute) : List (String × String) :=
  s.pairs.entries.filter fun pair => !carries attributes pair

def isMetBy (s : Selector) (attributes : List Attribute) : Bool := (s.unmet attributes).isEmpty

/-- The value a document asks for: a text, or the text of a number or a truth value. -/
def wanted? : Json → Option String
  | .str s => some s
  | .num n => some n.text
  | .bool b => some (if b then "true" else "false")
  | _ => none

/-- The pair that a field of an object asks for. -/
def pair? (field : String × Json) : Option (String × String) :=
  (wanted? field.2).map fun value => (field.1, value)

/-- The selector that an object of plain values stands for. -/
def ofJson? : Json → Option Selector
  | .obj fields => (fields.mapM pair?).map ofPairs
  | _ => none

/-- Reads a document after the blanks around it are cut off; nothing if there is none. -/
def document? (raw : String) : Option Json := Json.read? (Text.trim raw)

/-- Reads a selector; one that cannot be read constrains nothing. -/
def read (raw : String) : Selector := ((document? raw).bind ofJson?).getD any

end Selector

/-- The selectors of workers that bring none of their own, by label. -/
structure LabelSelectors where
  table : Table Selector
  deriving DecidableEq, Inhabited

namespace LabelSelectors

def none : LabelSelectors := ⟨.empty⟩

def insert (s : LabelSelectors) (label : String) (selector : Selector) : LabelSelectors :=
  ⟨s.table.insert label selector⟩

def find? (s : LabelSelectors) (label : String) : Option Selector := s.table.get? label

def size (s : LabelSelectors) : Nat := s.table.size

def isEmpty (s : LabelSelectors) : Bool := s.table.isEmpty

/-- Adds the entry of a label, unless it is no selector. -/
def addEntry (s : LabelSelectors) (entry : String × Json) : LabelSelectors :=
  match Selector.ofJson? entry.2 with
  | some selector => s.insert entry.1 selector
  | Option.none => s

/-- The selectors that an object stands for; entries that are no selectors are passed over. -/
def ofJson : Json → LabelSelectors
  | .obj fields => fields.foldl addEntry none
  | _ => none

/-- Reads the selectors of labels; a text that is not an object constrains none. -/
def read (raw : String) : LabelSelectors :=
  match Selector.document? raw with
  | some document => ofJson document
  | Option.none => none

end LabelSelectors

end OfferDispatch
