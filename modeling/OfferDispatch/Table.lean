/-!
# Ordered tables

A table pairs texts with values. It is kept in ascending order of its keys, each of which occurs
once, so that two tables are equal exactly when they answer every look-up alike. Writing a key
again replaces its value.
-/

namespace OfferDispatch

variable {α : Type}

/-- Writes a pair into a list that is ascending by key. -/
def insertPair (key : String) (value : α) : List (String × α) → List (String × α)
  | [] => [(key, value)]
  | pair :: rest =>
    if key < pair.1 then (key, value) :: pair :: rest
    else if key = pair.1 then (key, value) :: rest
    else pair :: insertPair key value rest

theorem mem_keys_insertPair {key k : String} {value : α} {l : List (String × α)} :
    k ∈ (insertPair key value l).map Prod.fst ↔ k = key ∨ k ∈ l.map Prod.fst := by
  induction l with
  | nil => simp [insertPair]
  | cons pair rest ih =>
    unfold insertPair
    split
    · simp
    split
    · next h => simp [h]
    · simp only [List.map_cons, List.mem_cons, ih]
      constructor <;> (intro h; rcases h with h | h | h <;> simp [h])

/-- The keys of a list of pairs ascend. -/
def Ascending (l : List (String × α)) : Prop := (l.map Prod.fst).Pairwise (· < ·)

instance (l : List (String × α)) : Decidable (Ascending l) :=
  inferInstanceAs (Decidable (List.Pairwise _ _))

theorem ascending_insertPair {key : String} {value : α} {l : List (String × α)}
    (h : Ascending l) : Ascending (insertPair key value l) := by
  induction l with
  | nil => simp [insertPair, Ascending]
  | cons pair rest ih =>
    obtain ⟨first, others⟩ := List.pairwise_cons.1 h
    unfold insertPair
    split
    · next lt =>
      refine List.pairwise_cons.2 ⟨fun k hk => ?_, h⟩
      rcases List.mem_cons.1 hk with rfl | hk
      · exact lt
      · exact String.lt_trans lt (first k hk)
    split
    · next eq => exact List.pairwise_cons.2 ⟨fun k hk => eq ▸ first k hk, others⟩
    · next notLt ne =>
      refine List.pairwise_cons.2 ⟨fun k hk => ?_, ih others⟩
      rcases mem_keys_insertPair.1 hk with rfl | hk
      · exact Std.lt_of_le_of_ne (Std.not_lt.1 notLt) (Ne.symm ne)
      · exact first k hk

/-- A finite map from texts, in ascending order of its keys. -/
structure Table (α : Type) where
  entries : List (String × α)
  ascending : Ascending entries

namespace Table

def empty : Table α := ⟨[], by simp [Ascending]⟩

instance : Inhabited (Table α) := ⟨empty⟩

def insert (t : Table α) (key : String) (value : α) : Table α :=
  ⟨insertPair key value t.entries, ascending_insertPair t.ascending⟩

/-- The table that a list of pairs builds up; a later pair replaces an earlier one of its key. -/
def ofList (pairs : List (String × α)) : Table α :=
  pairs.foldl (fun t p => t.insert p.1 p.2) empty

def get? (t : Table α) (key : String) : Option α := t.entries.lookup key

def isEmpty (t : Table α) : Bool := t.entries.isEmpty

def size (t : Table α) : Nat := t.entries.length

theorem ext_entries {s t : Table α} (h : s.entries = t.entries) : s = t := by
  cases s; cases t; cases h; rfl

instance [DecidableEq α] : DecidableEq (Table α) := fun s t =>
  if h : s.entries = t.entries then isTrue (ext_entries h)
  else isFalse fun e => h (e ▸ rfl)

@[simp] theorem entries_empty : (empty : Table α).entries = [] := rfl

@[simp] theorem entries_insert (t : Table α) (key : String) (value : α) :
    (t.insert key value).entries = insertPair key value t.entries := rfl

end Table

end OfferDispatch
