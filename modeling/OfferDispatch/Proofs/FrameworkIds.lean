import Mathlib.Data.String.Basic
import OfferDispatch.Proofs.Digits

/-!
# The text of framework ids

A framework id is written with its mark and twenty-six digits, and read back from this text as it
was. Whatever else is read as an id is such a text in other letters, or one whose digits hold more
than an id does: its first digit is then beyond seven, and what is dropped from it is not written
again. All other texts are refused, each for the first reason that applies.
-/

namespace OfferDispatch

namespace Ulid

/-- Is the text made of twenty-six bytes, each of them a digit? -/
def IsText (s : String) : Prop := s.utf8ByteSize = width ∧ ∀ c ∈ s.toList, IsDigit c

instance (s : String) : Decidable (IsText s) := inferInstanceAs (Decidable (_ ∧ _))

def capitals (s : String) : String := String.ofList (s.toList.map Char.toUpper)

theorem utf8Len_eq_length {cs : List Char} (h : ∀ c ∈ cs, IsDigit c) :
    String.utf8Len cs = cs.length := by
  induction cs with
  | nil => rfl
  | cons c cs ih =>
      obtain ⟨first, others⟩ := List.forall_mem_cons.1 h
      rw [String.utf8Len_cons, ih others, utf8Size_of_isDigit first, List.length_cons]

theorem IsText.length_eq {s : String} (h : IsText s) : s.toList.length = width := by
  rw [← utf8Len_eq_length h.2, ← String.utf8ByteSize_ofList, String.ofList_toList, h.1]

/-- A number is written with as many digits as there is room for. -/
theorem isText_text (u : Ulid) : IsText u.text := by
  have digits : ∀ c ∈ digits width u.val, IsDigit c := fun c there => (forall_mem_digits c there).1
  refine ⟨?_, by rwa [text, String.toList_ofList]⟩
  rw [text, String.utf8ByteSize_ofList, utf8Len_eq_length digits, length_digits]

/-- The number that a text is read as; what it has beyond 128 bits is dropped. -/
theorem parse_eq_ok_iff {s : String} {u : Ulid} :
    parse s = .ok u ↔
      s.utf8ByteSize = width ∧ ∃ n, readDigits? 0 s.toList = some n ∧ Fin.ofNat (2 ^ 128) n = u := by
  rw [parse]
  split
  · next other => exact iff_of_false nofun fun h => other h.1
  · next size =>
      rw [and_iff_right (not_not.1 size)]
      cases readDigits? 0 s.toList with
      | none => exact iff_of_false nofun nofun
      | some n =>
          constructor
          · rintro ⟨⟩
            exact ⟨n, rfl, rfl⟩
          · rintro ⟨m, ⟨⟩, rfl⟩
            rfl

/-- Twenty-six bytes that are digits are read as a number, and nothing else. -/
theorem exists_parse_eq_ok_iff {s : String} : (∃ u, parse s = .ok u) ↔ IsText s := by
  simp only [parse_eq_ok_iff, IsText, ← isSome_readDigits?_iff (n := 0), Option.isSome_iff_exists]
  constructor
  · rintro ⟨u, size, n, read, -⟩
    exact ⟨size, n, read⟩
  · rintro ⟨size, n, read⟩
    exact ⟨_, size, n, read, rfl⟩

/-- A text of another size is refused for its size, whatever its characters. -/
theorem parse_eq_error_iff {s : String} {fault : UlidFault} :
    parse s = .error fault ↔
      ¬ IsText s ∧ fault = if s.utf8ByteSize = width then .character else .length := by
  rw [IsText, ← isSome_readDigits?_iff (n := 0), parse]
  split
  · next other =>
      rw [and_iff_right fun text => other text.1, Except.error.injEq, eq_comm]
  · next size =>
      rw [if_pos (not_not.1 size), and_iff_right (not_not.1 size)]
      cases readDigits? 0 s.toList with
      | none => rw [and_iff_right nofun, Except.error.injEq, eq_comm]
      | some n => exact iff_of_false nofun fun h => h.1 rfl

theorem parse_text (u : Ulid) : parse u.text = .ok u := by
  have room : u.val < 32 ^ width := Nat.lt_of_lt_of_le u.isLt (by decide)
  refine parse_eq_ok_iff.2 ⟨(isText_text u).1, u.val, ?_, ?_⟩
  · rw [text, String.toList_ofList, readDigits?_digits, Nat.zero_mul, Nat.zero_add,
      Nat.mod_eq_of_lt room]
  · exact Fin.ext (Nat.mod_eq_of_lt u.isLt)

/-- What is read is written in capitals, provided that the first digit is at most seven: otherwise
the digits hold more than the number does. -/
theorem text_eq_capitals_iff {s : String} {u : Ulid} (h : parse s = .ok u) :
    text u = capitals s ↔ ∀ c ∈ s.toList.head?, c ≤ '7' := by
  have length : s.toList.length = width := (exists_parse_eq_ok_iff.1 ⟨u, h⟩).length_eq
  obtain ⟨-, n, read, rfl⟩ := parse_eq_ok_iff.1 h
  obtain ⟨room, written⟩ := digits_of_readDigits? read
  have kept : text (Fin.ofNat (2 ^ 128) n) = capitals s ↔ n < 2 ^ 128 := by
    rw [text, capitals, String.ofList_inj, ← written, length, Fin.val_ofNat]
    rw [length] at room
    refine ⟨fun same => ?_, fun fits => by rw [Nat.mod_eq_of_lt fits]⟩
    have less : n % 2 ^ 128 < 2 ^ 128 := Nat.mod_lt _ (by decide)
    have fits : n % 2 ^ 128 < 32 ^ width := Nat.lt_of_lt_of_le less (by decide)
    rwa [← digits_inj fits room same]
  rw [kept]
  cases digits : s.toList with
  | nil =>
      rw [digits] at length
      cases length
  | cons c cs =>
      rw [digits] at read length
      have others : cs.length = 25 := Nat.succ.inj length
      have bound : 8 * 32 ^ cs.length = 2 ^ 128 := by rw [others]
      rw [← bound, readDigits?_lt_iff read]
      simp

end Ulid

namespace FrameworkId

/-! ## The separator -/

/-- The text is split at its first underscore. -/
def Parted (s before after : String) : Prop :=
  s = before ++ "_" ++ after ∧ '_' ∉ before.toList

instance (s before after : String) : Decidable (Parted s before after) :=
  inferInstanceAs (Decidable (_ ∧ _))

theorem splitAtSeparator_eq_none_iff {cs : List Char} : splitAtSeparator cs = none ↔ '_' ∉ cs := by
  fun_induction splitAtSeparator cs with
  | case1 => simp
  | case2 => simp
  | case3 c rest other ih =>
      have apart : '_' ≠ c := fun same => other same.symm
      rw [Option.map_eq_none_iff, ih, List.mem_cons, not_or, and_iff_right apart]

theorem splitAtSeparator_append {before : List Char} (h : '_' ∉ before) (after : List Char) :
    splitAtSeparator (before ++ '_' :: after) = some (before, after) := by
  induction before with
  | nil => rfl
  | cons c before ih =>
      obtain ⟨apart, others⟩ := not_or.1 (mt List.mem_cons.2 h)
      rw [List.cons_append, splitAtSeparator, ih others, Option.map_some]
      exact fun same => apart same.symm

theorem Parted.split {s before after : String} (h : Parted s before after) :
    splitAtSeparator s.toList = some (before.toList, after.toList) := by
  rw [h.1, String.toList_append, String.toList_append, List.append_assoc]
  exact splitAtSeparator_append h.2 _

/-- A text has only one first underscore. -/
theorem Parted.unique {s before after before' after' : String} (h : Parted s before after)
    (h' : Parted s before' after') : before = before' ∧ after = after' := by
  have same := h.split.symm.trans h'.split
  rw [Option.some_inj, Prod.mk.injEq, String.toList_inj, String.toList_inj] at same
  exact same

theorem exists_parted {s : String} (h : '_' ∈ s.toList) : ∃ before after, Parted s before after := by
  obtain ⟨before, after, split, first⟩ := List.eq_append_cons_of_mem h
  refine ⟨.ofList before, .ofList after, ?_, by rwa [String.toList_ofList]⟩
  rw [← String.toList_inj, split]
  simp

theorem Parted.parse_eq {s before after : String} (h : Parted s before after) :
    parse s = if before ≠ mark then .error (.wrongMark mark before)
      else ((Ulid.parse after).mapError .invalidUlid).map mk := by
  have full : ¬ s.isEmpty = true := fun none => by
    have split := h.split
    rw [String.isEmpty_iff.1 none] at split
    cases split
  rw [parse, if_neg full, h.split]
  simp only [String.ofList_toList]
  cases Ulid.parse after <;> rfl

/-! ## Reading -/

/-- What becomes of a text that is read as an id: the first fault that applies, or the number after
the mark. -/
inductive Outcome (s : String) : Except IdError FrameworkId → Prop
  | empty (none : s = "") : Outcome s (.error .empty)
  | unparted (some : s ≠ "") (whole : '_' ∉ s.toList) : Outcome s (.error .missingSeparator)
  | strange {before after : String} (parted : Parted s before after) (other : before ≠ mark) :
      Outcome s (.error (.wrongMark mark before))
  | faulty {after : String} (parted : Parted s mark after) (bad : ¬ Ulid.IsText after) :
      Outcome s (.error (.invalidUlid
        (if after.utf8ByteSize = Ulid.width then .character else .length)))
  | read {after : String} {u : Ulid} (parted : Parted s mark after)
      (number : Ulid.parse after = .ok u) : Outcome s (.ok ⟨u⟩)

theorem Outcome.parse_eq {s : String} {r : Except IdError FrameworkId} (h : Outcome s r) :
    parse s = r := by
  cases h with
  | empty none =>
      subst none
      rfl
  | unparted some whole =>
      rw [parse, if_neg (mt String.isEmpty_iff.1 some), splitAtSeparator_eq_none_iff.2 whole]
  | strange parted other => rw [parted.parse_eq, if_pos other]
  | faulty parted bad =>
      rw [parted.parse_eq, if_neg (not_not.2 rfl), Ulid.parse_eq_error_iff.2 ⟨bad, rfl⟩]
      rfl
  | read parted number =>
      rw [parted.parse_eq, if_neg (not_not.2 rfl), number]
      rfl

theorem outcome_parse (s : String) : Outcome s (parse s) := by
  have found : ∃ r, Outcome s r := by
    by_cases none : s = ""
    · exact ⟨_, .empty none⟩
    by_cases whole : '_' ∈ s.toList
    · obtain ⟨before, after, parted⟩ := exists_parted whole
      by_cases other : before = mark
      · subst other
        by_cases good : Ulid.IsText after
        · obtain ⟨u, number⟩ := Ulid.exists_parse_eq_ok_iff.2 good
          exact ⟨_, .read parted number⟩
        · exact ⟨_, .faulty parted good⟩
      · exact ⟨_, .strange parted other⟩
    · exact ⟨_, .unparted none whole⟩
  obtain ⟨r, outcome⟩ := found
  exact outcome.parse_eq ▸ outcome

theorem parse_eq_iff {s : String} {r : Except IdError FrameworkId} : parse s = r ↔ Outcome s r :=
  ⟨fun same => same ▸ outcome_parse s, Outcome.parse_eq⟩

theorem parted_text (id : FrameworkId) : Parted id.text mark id.ulid.text :=
  ⟨rfl, by decide⟩

theorem parse_text (id : FrameworkId) : parse id.text = .ok id :=
  (Outcome.read (parted_text id) (Ulid.parse_text id.ulid)).parse_eq

/-- What is read as an id is its mark, and a number of twenty-six digits. -/
theorem exists_parse_eq_ok_iff {s : String} :
    (∃ id, parse s = .ok id) ↔ ∃ after, Parted s mark after ∧ Ulid.IsText after := by
  simp only [parse_eq_iff]
  constructor
  · rintro ⟨id, outcome⟩
    cases outcome with
    | read parted number => exact ⟨_, parted, Ulid.exists_parse_eq_ok_iff.1 ⟨_, number⟩⟩
  · rintro ⟨after, parted, digits⟩
    obtain ⟨u, number⟩ := Ulid.exists_parse_eq_ok_iff.2 digits
    exact ⟨_, .read parted number⟩

/-- An id is written like the text it was read from in capitals, if the number fits. -/
theorem text_eq_capitals_iff {s after : String} {id : FrameworkId} (read : parse s = .ok id)
    (parted : Parted s mark after) :
    id.text = mark ++ "_" ++ Ulid.capitals after ↔ ∀ c ∈ after.toList.head?, c ≤ '7' := by
  cases parse_eq_iff.1 read with
  | read parted' number =>
      obtain ⟨-, rfl⟩ := parted'.unique parted
      rw [← Ulid.text_eq_capitals_iff number, text, String.append_right_inj]

theorem parse_eq_error_empty_iff {s : String} : parse s = .error .empty ↔ s = "" := by
  refine ⟨fun h => ?_, fun none => (Outcome.empty none).parse_eq⟩
  cases parse_eq_iff.1 h with
  | empty none => exact none

theorem parse_eq_error_missingSeparator_iff {s : String} :
    parse s = .error .missingSeparator ↔ s ≠ "" ∧ '_' ∉ s.toList := by
  refine ⟨fun h => ?_, fun h => (Outcome.unparted h.1 h.2).parse_eq⟩
  cases parse_eq_iff.1 h with
  | unparted some whole => exact ⟨some, whole⟩

theorem parse_eq_error_wrongMark_iff {s expected actual : String} :
    parse s = .error (.wrongMark expected actual) ↔
      expected = mark ∧ actual ≠ mark ∧ ∃ after, Parted s actual after := by
  constructor
  · intro h
    cases parse_eq_iff.1 h with
    | strange parted other => exact ⟨rfl, other, _, parted⟩
  · rintro ⟨rfl, other, after, parted⟩
    exact (Outcome.strange parted other).parse_eq

theorem parse_eq_error_invalidUlid_iff {s : String} {fault : UlidFault} :
    parse s = .error (.invalidUlid fault) ↔ ∃ after, Parted s mark after ∧ ¬ Ulid.IsText after ∧
      fault = if after.utf8ByteSize = Ulid.width then .character else .length := by
  constructor
  · intro h
    cases parse_eq_iff.1 h with
    | faulty parted bad => exact ⟨_, parted, bad, rfl⟩
  · rintro ⟨after, parted, bad, rfl⟩
    exact (Outcome.faulty parted bad).parse_eq

theorem parse_ne_error_blankInside (s value : String) : parse s ≠ .error (.blankInside value) :=
  fun h => nomatch parse_eq_iff.1 h

/-- Ids are read back from their texts. Every text that is read as an id has the mark in front of
its first underscore and twenty-six digits behind it, and the id is written like it in capitals
exactly if the first of these digits is at most seven. Every other text is refused for the first
of four faults that applies. -/
theorem framework_ids_round_trip :
    (∀ id : FrameworkId, parse id.text = .ok id ∧
      ∃ digits : List Char, id.text = "fw_" ++ String.ofList digits ∧ digits.length = 26 ∧
        ∀ c ∈ digits, Ulid.IsDigit c ∧ c.toUpper = c) ∧
    ∀ s : String,
      ((∃ id, parse s = .ok id) ↔ ∃ after, Parted s "fw" after ∧ after.utf8ByteSize = 26 ∧
        ∀ c ∈ after.toList, Ulid.IsDigit c) ∧
      (∀ id after, parse s = .ok id → Parted s "fw" after → parse id.text = .ok id ∧
        (id.text = "fw_" ++ Ulid.capitals after ↔ ∀ c ∈ after.toList.head?, c ≤ '7')) ∧
      (parse s = .error .empty ↔ s = "") ∧
      (parse s = .error .missingSeparator ↔ s ≠ "" ∧ '_' ∉ s.toList) ∧
      (∀ expected actual, parse s = .error (.wrongMark expected actual) ↔
        expected = "fw" ∧ actual ≠ "fw" ∧ ∃ after, Parted s actual after) ∧
      (∀ fault, parse s = .error (.invalidUlid fault) ↔
        ∃ after, Parted s "fw" after ∧ ¬ Ulid.IsText after ∧
          fault = if after.utf8ByteSize = 26 then .character else .length) ∧
      ∀ value, parse s ≠ .error (.blankInside value) := by
  constructor
  · intro id
    exact ⟨parse_text id, Ulid.digits Ulid.width id.ulid.val, rfl, Ulid.length_digits _ _,
      Ulid.forall_mem_digits⟩
  · intro s
    exact ⟨exists_parse_eq_ok_iff,
      fun id after read parted => ⟨parse_text id, text_eq_capitals_iff read parted⟩,
      parse_eq_error_empty_iff, parse_eq_error_missingSeparator_iff,
      fun _ _ => parse_eq_error_wrongMark_iff, fun _ => parse_eq_error_invalidUlid_iff,
      parse_ne_error_blankInside s⟩

end FrameworkId

namespace Plain

open FrameworkId

/-- The largest id there is, in small letters. -/
def smallText : String := "fw_7zzzzzzzzzzzzzzzzzzzzzzzzz"

/-- Digits for two bits more than an id has. -/
def overfullText : String := "fw_80000000000000000000000000"

theorem framework_ids_round_trip_overfull :
    (FrameworkId.parse smallText = .ok ⟨Fin.ofNat (2 ^ 128) (2 ^ 128 - 1)⟩ ∧
      Parted smallText "fw" "7zzzzzzzzzzzzzzzzzzzzzzzzz" ∧
      (⟨Fin.ofNat (2 ^ 128) (2 ^ 128 - 1)⟩ : FrameworkId).text = "fw_7ZZZZZZZZZZZZZZZZZZZZZZZZZ") ∧
    FrameworkId.parse overfullText = .ok ⟨0⟩ ∧
      Parted overfullText "fw" "80000000000000000000000000" ∧
      (⟨0⟩ : FrameworkId).text ≠ overfullText := by
  obtain ⟨-, texts⟩ := framework_ids_round_trip
  obtain ⟨-, readSmall, -⟩ := texts smallText
  obtain ⟨-, readOverfull, -⟩ := texts overfullText
  have small : FrameworkId.parse smallText = .ok ⟨Fin.ofNat (2 ^ 128) (2 ^ 128 - 1)⟩ := by
    decide +kernel
  have overfull : FrameworkId.parse overfullText = .ok ⟨0⟩ := by decide +kernel
  have smallParts : Parted smallText "fw" "7zzzzzzzzzzzzzzzzzzzzzzzzz" := by decide +kernel
  have overfullParts : Parted overfullText "fw" "80000000000000000000000000" := by decide +kernel
  have first : "7zzzzzzzzzzzzzzzzzzzzzzzzz".toList.head? = some '7' := by decide +kernel
  have beyond : '8' ∈ "80000000000000000000000000".toList.head? := by decide +kernel
  refine ⟨⟨small, smallParts, (readSmall _ _ small smallParts).2.2 ?_⟩, overfull, overfullParts, ?_⟩
  · rw [first]
    rintro c ⟨⟩
    exact Char.le_refl _
  · intro same
    exact absurd ((readOverfull _ _ overfull overfullParts).2.1 same '8' beyond) (by decide)

end Plain

end OfferDispatch
