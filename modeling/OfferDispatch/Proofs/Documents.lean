import OfferDispatch.Document.Task
import OfferDispatch.Proofs.Instants
import OfferDispatch.Proofs.Magnitudes

/-!
# Values and their documents

A value that is written as a document is read back from it, if it is one that documents have a form
for: its names are valid, its amounts are finite, and its instants are such that there can be. And
whatever is read from a document is a value of this kind, even if the document is not the one that
would be written for it: the fields of a record can stand in any order, or be given as an array, and
an amount can be a whole number.
-/

namespace OfferDispatch

/-! ## Documents that there can be -/

/-- The float is a number, and not an infinite one. -/
def IsFinite (x : Float) : Prop := x.isFinite = true

/-- A number that a document can hold: a whole number of 64 bits, with or without a sign, or a
finite float. -/
def Number.IsProper : Number → Prop
  | int n => -2 ^ 63 ≤ n ∧ n < 2 ^ 64
  | float x => IsFinite x

/-- A document that holds no other numbers. -/
inductive Json.IsProper : Json → Prop
  | null : IsProper .null
  | bool (b : Bool) : IsProper (.bool b)
  | num {n : Number} (h : n.IsProper) : IsProper (.num n)
  | str (s : String) : IsProper (.str s)
  | arr {items : List Json} (h : ∀ d ∈ items, d.IsProper) : IsProper (.arr items)
  | obj {fields : List (String × Json)} (h : ∀ field ∈ fields, field.2.IsProper) :
      IsProper (.obj fields)

theorem Number.IsProper.isFinite_toFloat {n : Number} (h : n.IsProper) : IsFinite n.toFloat := by
  cases n with
  | int n => exact isFinite_ofInt h
  | float x => exact h

theorem Name.parse_text_iff {kind : Named} {n : Name kind} :
    Name.parse n.text = .ok n ↔ n.IsValid := by
  rw [parse_eq_ok_iff, and_iff_left rfl]
  exact Iff.rfl

/-! ## Tables -/

/-- A key behind all others goes to the end. -/
theorem insertPair_of_lt {α : Type} {key : String} {value : α} {l : List (String × α)}
    (last : ∀ pair ∈ l, pair.1 < key) : insertPair key value l = l ++ [(key, value)] := by
  induction l with
  | nil => rfl
  | cons pair l ih =>
      obtain ⟨less, others⟩ := List.forall_mem_cons.1 last
      have notLess : ¬ key < pair.1 := fun greater =>
        String.lt_irrefl _ (String.lt_trans less greater)
      have other : key ≠ pair.1 := fun same => String.lt_irrefl _ (same ▸ less)
      rw [insertPair, if_neg notLess, if_neg other, ih others, List.cons_append]

/-- Pairs that ascend from those of a table are added to its end. -/
theorem Table.entries_foldl_insert {α : Type} {t : Table α} {l : List (String × α)}
    (ascending : Ascending (t.entries ++ l)) :
    (l.foldl (fun t p => t.insert p.1 p.2) t).entries = t.entries ++ l := by
  induction l generalizing t with
  | nil => exact (List.append_nil _).symm
  | cons pair l ih =>
      have last : ∀ earlier ∈ t.entries, earlier.1 < pair.1 := fun earlier there => by
        rw [Ascending, List.map_append] at ascending
        exact (List.pairwise_append.1 ascending).2.2 _ (List.mem_map_of_mem there) _
          (List.mem_cons_self ..)
      have added : (t.insert pair.1 pair.2).entries = t.entries ++ [pair] := by
        rw [Table.entries_insert, insertPair_of_lt last]
      have split : t.entries ++ pair :: l = (t.insert pair.1 pair.2).entries ++ l := by
        rw [added, List.append_assoc, List.singleton_append]
      rw [split] at ascending ⊢
      exact ih ascending

/-- A pair is found under its key if no other has it. -/
theorem lookup_eq_some_of_mem {α : Type} {key : String} {value : α} {l : List (String × α)}
    (distinct : (l.map Prod.fst).Nodup) (there : (key, value) ∈ l) : l.lookup key = some value := by
  obtain ⟨before, after, split⟩ := List.append_of_mem there
  refine List.lookup_eq_some_iff.2 ⟨before, after, split, fun other earlier => ?_⟩
  rw [split, List.map_append, List.map_cons] at distinct
  have apart := (List.nodup_append.1 distinct).2.2 other.1 (List.mem_map_of_mem earlier) key
    (List.mem_cons_self ..)
  exact bne_iff_ne.2 apart.symm

/-- A table is built up from its own pairs. -/
theorem Table.ofList_entries {α : Type} (t : Table α) : Table.ofList t.entries = t :=
  Table.ext_entries (Table.entries_foldl_insert (t := .empty) t.ascending)

namespace Document

/-! ## Values that are read back -/

/-- Values of a kind are read back from their documents, and only such values are read. -/
class Faithful (α : Type) [Document α] (IsProper : outParam (α → Prop)) : Prop where
  decode?_encode {a : α} (h : IsProper a) : decode? (encode a) = some a
  isProper_of_decode? {d : Json} {a : α} (proper : d.IsProper) (read : decode? d = some a) :
    IsProper a

/-- No value is read from null. -/
class RefusesNull (α : Type) [Document α] : Prop where
  decode?_null : decode? .null = (none : Option α)

open Faithful RefusesNull

section

variable {α β : Type} [Document α] [Document β] {P : α → Prop} {Q : β → Prop}

/-- Where every value is read back, every value is of the kind. -/
theorem Faithful.of_always (h : ∀ a : α, decode? (encode a) = some a) :
    Faithful α fun _ => True :=
  ⟨fun _ => h _, fun _ _ => trivial⟩

theorem encode_ne_null [Faithful α P] [RefusesNull α] {a : α} (h : P a) :
    encode a ≠ .null := fun null => by
  have read := decode?_encode h
  rw [null, decode?_null] at read
  cases read

/-- What is not null is read as a value that is there. -/
theorem decode?_of_ne_null {d : Json} (h : d ≠ .null) :
    (decode? d : Option (Option α)) = (decode? d : Option α).map some := by
  cases d with
  | null => exact absurd rfl h
  | bool | num | str | arr | obj => rfl

instance [Faithful α P] [RefusesNull α] : Faithful (Option α) fun o => ∀ a ∈ o, P a where
  decode?_encode {o} h := by
    cases o with
    | none => rfl
    | some a =>
        have proper : P a := h a rfl
        change decode? (encode a) = some (some a)
        rw [decode?_of_ne_null (encode_ne_null proper), decode?_encode proper, Option.map_some]
  isProper_of_decode? {d o} proper read := by
    intro a there
    by_cases null : d = .null
    · subst null
      cases read
      cases there
    · rw [decode?_of_ne_null null] at read
      obtain ⟨b, readHere, same⟩ := Option.map_eq_some_iff.1 read
      subst same
      cases there
      exact isProper_of_decode? proper readHere

/-- What is written item by item is read item by item. -/
theorem mapM_map_eq_some {γ δ : Type} {f : δ → Option γ} {g : γ → δ} {l : List γ}
    (h : ∀ a ∈ l, f (g a) = some a) : (l.map g).mapM f = some l := by
  induction l with
  | nil => rfl
  | cons a l ih =>
      obtain ⟨first, others⟩ := List.forall_mem_cons.1 h
      rw [List.map_cons, List.mapM_cons, first, ih others]
      rfl

/-- The items of an array are read one by one. -/
theorem mapM_decode?_eq_some [Faithful α P] {items : List Json} {l : List α}
    (proper : ∀ d ∈ items, d.IsProper) (read : items.mapM decode? = some l) : ∀ a ∈ l, P a := by
  induction items generalizing l with
  | nil =>
      cases read
      exact List.forall_mem_nil _
  | cons d items ih =>
      obtain ⟨first, others⟩ := List.forall_mem_cons.1 proper
      rw [List.mapM_cons] at read
      obtain ⟨a, readFirst, read⟩ := Option.bind_eq_some_iff.1 read
      obtain ⟨l', readOthers, read⟩ := Option.bind_eq_some_iff.1 read
      cases read
      exact List.forall_mem_cons.2 ⟨isProper_of_decode? first readFirst, ih others readOthers⟩

instance [Faithful α P] : Faithful (List α) fun l => ∀ a ∈ l, P a where
  decode?_encode {l} h := by
    exact mapM_map_eq_some fun a there => decode?_encode (h a there)
  isProper_of_decode? {d l} proper read := by
    cases proper with
    | arr items => exact mapM_decode?_eq_some items read
    | null | bool | num | str | obj => cases read

instance [Faithful α P] [Faithful β Q] : Faithful (α × β) fun p => P p.1 ∧ Q p.2 where
  decode?_encode {p} h := by
    change (do return (← decode? (encode p.1), ← decode? (encode p.2))) = some p
    rw [decode?_encode h.1, decode?_encode h.2]
    rfl
  isProper_of_decode? {d p} proper read := by
    cases proper with
    | @arr items proper =>
        match items with
        | [first, second] =>
            obtain ⟨a, readFirst, read⟩ := Option.bind_eq_some_iff.1 read
            obtain ⟨b, readSecond, read⟩ := Option.bind_eq_some_iff.1 read
            cases read
            exact ⟨isProper_of_decode? (proper first (by simp)) readFirst,
              isProper_of_decode? (proper second (by simp)) readSecond⟩
        | [] | [_] | _ :: _ :: _ :: _ => cases read
    | null | bool | num | str | obj => cases read

end

/-! ## Plain values -/

instance : Faithful String fun _ => True := .of_always fun _ => rfl

instance : Faithful Bool fun _ => True := .of_always fun _ => rfl

theorem nat?_ofNat {bound n : Nat} (h : n < bound) : nat? bound (.ofNat n) = some n := by
  rw [Json.ofNat, nat?, if_pos ⟨Int.natCast_nonneg n, Int.ofNat_lt.2 h⟩, Int.toNat_natCast]

instance : Faithful UInt32 fun _ => True := .of_always fun n => by
  change (nat? UInt32.size (.ofNat n.toNat)).map UInt32.ofNat = some n
  rw [nat?_ofNat n.toNat_lt, Option.map_some, UInt32.ofNat_toNat]

instance : Faithful UInt64 fun _ => True := .of_always fun n => by
  change (nat? UInt64.size (.ofNat n.toNat)).map UInt64.ofNat = some n
  rw [nat?_ofNat n.toNat_lt, Option.map_some, UInt64.ofNat_toNat]

instance : Faithful Float IsFinite where
  decode?_encode {x} h := by
    change decode? (if x.isFinite then Json.num (.float x) else .null) = some x
    rw [if_pos (show x.isFinite = true from h)]
    rfl
  isProper_of_decode? {d x} proper read := by
    cases proper with
    | num h =>
        cases read
        exact h.isFinite_toFloat
    | null | bool | str | arr | obj => cases read

/-! ## Names and instants -/

instance {kind : Named} : Faithful (Name kind) Name.IsValid where
  decode?_encode {n} h := by
    change (Name.parse n.text).toOption = some n
    rw [Name.parse_text_iff.2 h]
    rfl
  isProper_of_decode? {d n} _ read := by
    obtain ⟨s, -, read⟩ := Option.bind_eq_some_iff.1 read
    cases parsed : (Name.parse s : Except _ (Name kind)) with
    | error e =>
        rw [parsed] at read
        cases read
    | ok m =>
        rw [parsed] at read
        cases read
        obtain ⟨valid, text⟩ := Name.parse_eq_ok_iff.1 parsed
        rwa [Name.IsValid, text]

instance : Faithful Instant Instant.IsProper where
  decode?_encode {t} h := by
    simp only [encode, decode?, text?, Option.bind_some]
    exact h.read?_text
  isProper_of_decode? {d t} _ read := by
    obtain ⟨s, -, read⟩ := Option.bind_eq_some_iff.1 read
    exact Instant.isProper_of_read? read

instance : RefusesNull String := ⟨rfl⟩
instance : RefusesNull UInt32 := ⟨rfl⟩
instance : RefusesNull Instant where
  decode?_null := by
    simp only [decode?, text?, Option.bind_none]

/-! ## Records -/

/-- The parts of an object with just the fields asked for. -/
theorem parts?_obj {names : List String} {fields : List (String × Json)}
    (same : fields.map Prod.fst = names) (distinct : names.Nodup) :
    parts? names (.obj fields) = some (fields.map Prod.snd) := by
  subst same
  rw [parts?, List.map_map]
  refine congrArg some (List.map_congr_left fun field there => ?_)
  rw [Function.comp_apply, lookup_eq_some_of_mem distinct there, Option.getD_some]

theorem isProper_of_parts? {names : List String} {d : Json} {items : List Json}
    (proper : d.IsProper) (read : parts? names d = some items) : ∀ item ∈ items, item.IsProper := by
  cases proper with
  | arr proper =>
      simp only [parts?, Option.ite_none_right_eq_some, Option.some.injEq] at read
      exact read.2 ▸ proper
  | @obj fields proper =>
      cases read
      refine List.forall_mem_map.2 fun name _ => ?_
      cases found : fields.lookup name with
      | none => exact .null
      | some document =>
          obtain ⟨before, after, split, -⟩ := List.lookup_eq_some_iff.1 found
          exact proper (name, document) (by simp [split])
  | null | bool | num | str => cases read

variable {α γ : Type} [Document α] {P : α → Prop}

theorem bind_parts? {names : List String} {fields : List (String × Json)}
    {f : List Json → Option γ} (same : fields.map Prod.fst = names) (distinct : names.Nodup) :
    (parts? names (.obj fields) >>= f) = f (fields.map Prod.snd) :=
  Text.bind_of_eq_some (parts?_obj same distinct) f

/-- What a part is read as is a value of its kind. -/
theorem exists_of_bind_decode? [Faithful α P] {d : Json} {f : α → Option γ} {c : γ}
    (proper : d.IsProper) (read : (decode? d >>= f) = some c) : ∃ a, P a ∧ f a = some c := by
  obtain ⟨a, readHere, read⟩ := Option.bind_eq_some_iff.1 read
  exact ⟨a, isProper_of_decode? proper readHere, read⟩

theorem bind_decode? [Faithful α P] {a : α} {f : α → Option γ} (h : P a) :
    (decode? (encode a) >>= f) = f a :=
  Text.bind_of_eq_some (decode?_encode h) f

instance : Faithful PortRange fun _ => True := .of_always fun _ =>
  (bind_parts? rfl (by simp)).trans <| (bind_decode? trivial).trans <| bind_decode? trivial

instance : Faithful Attribute fun _ => True := .of_always fun _ =>
  (bind_parts? rfl (by simp)).trans <| (bind_decode? trivial).trans <| bind_decode? trivial

instance : Faithful FetchedFile fun _ => True := .of_always fun _ =>
  (bind_parts? rfl (by simp)).trans <| (bind_decode? trivial).trans <| (bind_decode? trivial).trans <|
    bind_decode? trivial

instance : Faithful PortMapping fun _ => True := .of_always fun _ =>
  (bind_parts? rfl (by simp)).trans <| (bind_decode? trivial).trans <| (bind_decode? (by simp)).trans <|
    bind_decode? trivial

instance : Faithful BoundPort fun _ => True := .of_always fun _ =>
  (bind_parts? rfl (by simp)).trans <| (bind_decode? trivial).trans <|
    (bind_decode? trivial).trans <| bind_decode? trivial

instance : Faithful Volume fun _ => True := .of_always fun _ =>
  (bind_parts? rfl (by simp)).trans <| (bind_decode? trivial).trans <|
    (bind_decode? (by simp)).trans <| bind_decode? trivial

instance : Faithful CommandLine fun _ => True := .of_always fun _ =>
  (bind_parts? rfl (by simp)).trans <| (bind_decode? trivial).trans <|
    (bind_decode? trivial).trans <| (bind_decode? (by simp)).trans <| bind_decode? (by simp)

instance : Faithful CommandStyle fun _ => True := .of_always fun style => by
  cases style <;> rfl

instance : Faithful NetworkMode fun _ => True := .of_always fun mode => by
  cases mode <;> rfl

instance : Faithful TaskState fun _ => True := .of_always fun state => by
  cases state <;> rfl

instance : RefusesNull HostContainer := ⟨rfl⟩
instance : RefusesNull ContainerSpec := ⟨rfl⟩

instance : Faithful HostContainer fun _ => True := .of_always fun _ =>
  (bind_parts? rfl (by simp)).trans <| (bind_decode? trivial).trans <|
    (bind_decode? trivial).trans <| (bind_decode? trivial).trans <|
    (bind_decode? trivial).trans <| (bind_decode? (by simp)).trans <|
    (bind_decode? (by simp)).trans <| (bind_decode? (by simp)).trans <|
    (bind_decode? (by simp)).trans <| bind_decode? (by simp)

instance : Faithful ContainerSpec fun _ => True := .of_always fun _ =>
  (bind_parts? rfl (by simp)).trans <| (bind_decode? trivial).trans <|
    (bind_decode? trivial).trans <| (bind_decode? trivial).trans <|
    (bind_decode? trivial).trans <| (bind_decode? (by simp)).trans <|
    (bind_decode? (by simp)).trans <| (bind_decode? (by simp)).trans <|
    (bind_decode? (by simp)).trans <| bind_decode? (by simp)

/-! ## Selectors -/

instance : Faithful Selector fun _ => True := .of_always fun s => by
  have read : (s.pairs.entries.map fun pair => (pair.1, Json.str pair.2)).mapM textField? =
      some s.pairs.entries :=
    mapM_map_eq_some fun _ _ => rfl
  change Option.map Selector.ofPairs _ = some s
  rw [read, Option.map_some, Selector.ofPairs, Table.ofList_entries]

end Document

end OfferDispatch
