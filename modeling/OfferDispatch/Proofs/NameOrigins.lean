import OfferDispatch.Proofs.Digits
import OfferDispatch.Proofs.Documents
import OfferDispatch.Proofs.Readings

/-!
# Where names come from

A text that is read as a name is one without blanks, and it is kept as it is. A name that was read,
by itself or from a document, can be read again. A name can also be generated from a stem, and a stem
is not looked at: if there is a blank in it, then there is one in the name, which is refused when it
is read and does not come back from its document.
-/

namespace OfferDispatch

open Text

namespace Name

variable {kind : Named}

/-! ## Valid names -/

theorem isValidText_iff {s : String} :
    isValidText s = true ↔ s ≠ "" ∧ ∀ c ∈ s.toList, isBlank c = false := by
  simp [isValidText]

theorem isBlank_toLower_digit : ∀ n < 32, isBlank (Ulid.digit n).toLower = false := by
  decide +kernel

/-- The digits of a fresh number are not blank. -/
theorem isBlank_of_mem_digits {count n : Nat} :
    ∀ c ∈ (Ulid.digits count n).map Char.toLower, isBlank c = false := by
  induction count generalizing n with
  | zero => exact List.forall_mem_nil _
  | succ count ih =>
      rw [Ulid.digits, List.map_append, List.forall_mem_append]
      exact ⟨ih, List.forall_mem_singleton.2 (isBlank_toLower_digit _ (Nat.mod_lt _ (by decide)))⟩

/-- A generated name is valid exactly if its stem has no blank. -/
theorem isValid_generate_iff {stem : String} {fresh : Ulid} :
    (generate stem fresh).IsValid ↔ ∀ c ∈ stem.toList, isBlank c = false := by
  have chars : (generate stem fresh).text.toList =
      stem.toList ++ '-' :: (Ulid.digits Ulid.width fresh.val).map Char.toLower := by
    simp [generate, Ulid.text]
  have something : (generate stem fresh).text ≠ "" := fun none => by
    rw [none] at chars
    exact List.append_ne_nil_of_right_ne_nil _ (List.cons_ne_nil _ _) chars.symm
  have visible : ∀ c ∈ '-' :: (Ulid.digits Ulid.width fresh.val).map Char.toLower,
      isBlank c = false :=
    List.forall_mem_cons.2 ⟨by decide, isBlank_of_mem_digits⟩
  rw [IsValid, isValidText_iff, and_iff_right something, chars, List.forall_mem_append,
    and_iff_left visible]

/-- The name is read from the text of its document. -/
def ComesBack (n : Name kind) : Prop :=
  (Json.read? (Json.text (Document.encode n))).bind Document.decode? = some n

theorem comesBack_iff {n : Name kind} : n.ComesBack ↔ n.IsValid := by
  have read : Json.read? (Json.text (Document.encode n)) = some (Document.encode n) :=
    (Json.isPrinted_str n.text).read?_text
  rw [ComesBack, read, Option.bind_some]
  exact ⟨Document.Faithful.isProper_of_decode? (.str n.text), Document.Faithful.decode?_encode⟩

/-- What is decoded as a name is valid. -/
theorem isValid_of_decode? {d : Json} {n : Name kind} (h : Document.decode? d = some n) :
    n.IsValid := by
  cases d with
  | str s => exact Document.Faithful.isProper_of_decode? (.str s) h
  | null | bool | num | arr | obj => cases h

/-! ## Origins -/

/-- Where a task can have its name from: a text, a document, or a stem and a fresh number. -/
inductive Origin
  | parsed (s : String)
  | decoded (raw : String)
  | generated (stem : String) (fresh : Ulid)

namespace Origin

/-- The name that comes of it, if one does. -/
def name? : Origin → Option TaskId
  | parsed s => (parse s).toOption
  | decoded raw => (Json.read? raw).bind Document.decode?
  | generated stem fresh => some (generate stem fresh)

/-- Is there a blank in the stem of the name? -/
def HasBlankStem : Origin → Prop
  | generated stem _ => ∃ c ∈ stem.toList, isBlank c = true
  | parsed _ | decoded _ => False

theorem isValid_iff {o : Origin} {n : TaskId} (h : o.name? = some n) :
    n.IsValid ↔ ¬ o.HasBlankStem := by
  cases o with
  | parsed s =>
      have valid : n.IsValid := by
        cases read : (parse s : Except _ TaskId) with
        | error e =>
            rw [name?, read] at h
            cases h
        | ok m =>
            rw [name?, read] at h
            cases h
            obtain ⟨valid, same⟩ := parse_eq_ok_iff.1 read
            rwa [IsValid, same]
      exact iff_of_true valid not_false
  | decoded raw =>
      obtain ⟨d, -, decoded⟩ := Option.bind_eq_some_iff.1 h
      exact iff_of_true (isValid_of_decode? decoded) not_false
  | generated stem fresh =>
      cases h
      rw [isValid_generate_iff, HasBlankStem]
      simp

end Origin

/-- Of all texts, the names of each kind are exactly those that are not empty and have no blank, and
they are kept as they are. However a task has come to its name, it can be read again, by itself and
from its document, unless the name was generated from a stem with a blank in it; then it cannot be
read again in either way. -/
theorem reread_iff_no_blank_stem (s : String) (o : Origin) :
    (∀ (kind : Named) (n : Name kind),
      parse s = .ok n ↔ s ≠ "" ∧ (∀ c ∈ s.toList, isBlank c = false) ∧ n.text = s) ∧
    ∀ n : TaskId, o.name? = some n →
      (parse n.text = .ok n ↔ ¬ o.HasBlankStem) ∧ (n.ComesBack ↔ ¬ o.HasBlankStem) := by
  refine ⟨fun kind n => ?_, fun n made => ?_⟩
  · rw [parse_eq_ok_iff, isValidText_iff, and_assoc]
  · rw [parse_text_iff, comesBack_iff]
    exact ⟨Origin.isValid_iff made, Origin.isValid_iff made⟩

end Name

namespace Plain

/-- A stem of two words and a fresh number. -/
def twoWords : Name.Origin := .generated "my worker" ⟨7, by decide⟩

theorem reread_iff_no_blank_stem_two_words :
    ∃ n : TaskId, twoWords.name? = some n ∧
      (Name.parse n.text : Except IdError TaskId) ≠ .ok n ∧ ¬ n.ComesBack := by
  have made : twoWords.name? = some (Name.generate "my worker" ⟨7, by decide⟩) := rfl
  obtain ⟨-, however⟩ := Name.reread_iff_no_blank_stem "my worker" twoWords
  obtain ⟨reread, back⟩ := however _ made
  have blank : twoWords.HasBlankStem := ⟨' ', by decide, by decide⟩
  exact ⟨_, made, fun read => reread.1 read blank, fun read => back.1 read blank⟩

end Plain

end OfferDispatch
