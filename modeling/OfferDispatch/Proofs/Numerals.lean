import OfferDispatch.Proofs.Instants

/-!
# Numerals

A numeral is made of digits, with at most one plus sign in front. A text that is one stands for one
number, which is read if it is below the bound. What is wrong with another text depends on how far
it is read: the digits in front may outgrow the bound, and then what follows them is not looked at,
or else there is a character that is no digit, or no character at all.
-/

namespace OfferDispatch.Text

/-- The text is digits, with at most one plus sign in front, and stands for the number. -/
def IsNumeral (cs : List Char) (n : Nat) : Prop :=
  ∃ ds : List Char, (cs = ds ∨ cs = '+' :: ds) ∧ ds ≠ [] ∧ (∀ c ∈ ds, c.isDigit = true) ∧
    Nat.ofDigitChars 10 ds 0 = n

/-- The text begins with digits, with at most one plus sign in front, that stand for a number which
is not below the bound. -/
def Outgrows (bound : Nat) (cs : List Char) : Prop :=
  ∃ ds : List Char, (cs = ds ∨ cs = '+' :: ds) ∧ ∃ front, front <+: ds ∧
    (∀ c ∈ front, c.isDigit = true) ∧ bound ≤ Nat.ofDigitChars 10 front 0

variable {bound n m : Nat} {c : Char} {cs : List Char}

/-! ## Digits -/

theorem digit?_of_not_isDigit (h : ¬ c.isDigit = true) : digit? c = none := by
  simp only [Char.isDigit, Bool.and_eq_true, decide_eq_true_eq] at h
  exact if_neg h

/-- Further digits only make a number larger. -/
theorem le_ofDigitChars (n : Nat) (ds : List Char) : n ≤ Nat.ofDigitChars 10 ds n := by
  induction ds generalizing n with
  | nil => exact Nat.le_refl n
  | cons c ds ih =>
      rw [Nat.ofDigitChars_cons]
      exact Nat.le_trans (by omega) (ih _)

theorem readDigits_cons_of_isDigit (h : c.isDigit = true) : readDigits bound n (c :: cs) =
    if 10 * n + (c.toNat - '0'.toNat) < bound then
      readDigits bound (10 * n + (c.toNat - '0'.toNat)) cs
    else .error .tooLarge := by
  rw [readDigits, digit?_of_isDigit h, Nat.mul_comm n]

theorem readDigits_cons_of_not_isDigit (h : ¬ c.isDigit = true) :
    readDigits bound n (c :: cs) = .error .invalidDigit := by
  rw [readDigits, digit?_of_not_isDigit h]

/-- Digits are read exactly if the number they make stays below the bound. -/
theorem readDigits_eq_ok_iff (small : n < bound) : readDigits bound n cs = .ok m ↔
    (∀ c ∈ cs, c.isDigit = true) ∧ Nat.ofDigitChars 10 cs n = m ∧ m < bound := by
  induction cs generalizing n with
  | nil =>
      rw [readDigits, Except.ok.injEq]
      constructor
      · rintro rfl
        exact ⟨List.forall_mem_nil _, rfl, small⟩
      · exact fun h => h.2.1
  | cons c cs ih =>
      rw [List.forall_mem_cons]
      by_cases digit : c.isDigit = true
      · rw [readDigits_cons_of_isDigit digit, Nat.ofDigitChars_cons]
        split
        · next less => rw [ih less, and_iff_right digit]
        · next large =>
            refine iff_of_false nofun ?_
            rintro ⟨-, rfl, less⟩
            exact large (Nat.lt_of_le_of_lt (le_ofDigitChars _ cs) less)
      · rw [readDigits_cons_of_not_isDigit digit]
        exact iff_of_false nofun fun h => digit h.1.1

theorem exists_prefix_cons_iff {P : List Char → Prop} : (∃ front, front <+: c :: cs ∧ P front) ↔
    P [] ∨ ∃ front, front <+: cs ∧ P (c :: front) := by
  simp only [List.prefix_cons_iff, or_and_right, exists_or, exists_eq_left]
  refine or_congr_right ⟨?_, ?_⟩
  · rintro ⟨_, ⟨front, rfl, before⟩, holds⟩
    exact ⟨front, before, holds⟩
  · rintro ⟨front, before, holds⟩
    exact ⟨_, ⟨front, rfl, before⟩, holds⟩

/-- Reading stops where the digits in front outgrow the bound. -/
theorem readDigits_eq_tooLarge_iff (small : n < bound) :
    readDigits bound n cs = .error .tooLarge ↔ ∃ front, front <+: cs ∧
      (∀ c ∈ front, c.isDigit = true) ∧ bound ≤ Nat.ofDigitChars 10 front n := by
  induction cs generalizing n with
  | nil =>
      refine iff_of_false nofun ?_
      rintro ⟨front, before, -, large⟩
      cases List.prefix_nil.1 before
      exact absurd small (Nat.not_lt.2 large)
  | cons c cs ih =>
      rw [exists_prefix_cons_iff, or_iff_right fun h => absurd small (Nat.not_lt.2 h.2)]
      simp only [List.forall_mem_cons, Nat.ofDigitChars_cons]
      by_cases digit : c.isDigit = true
      · simp only [digit, true_and]
        rw [readDigits_cons_of_isDigit digit]
        split
        · next less => exact ih less
        · next large =>
            exact iff_of_true rfl ⟨[], List.nil_prefix, List.forall_mem_nil _, Nat.not_lt.1 large⟩
      · rw [readDigits_cons_of_not_isDigit digit]
        refine iff_of_false nofun ?_
        rintro ⟨_, _, ⟨first, _⟩, _⟩
        exact digit first

/-! ## Signs -/

/-- The text without the plus sign in front. -/
def unsigned : List Char → List Char
  | '+' :: ds => ds
  | ds => ds

theorem unsigned_of_isDigit (h : c.isDigit = true) : unsigned (c :: cs) = c :: cs := by
  rw [unsigned.eq_2]
  rintro _ ⟨⟩
  cases h

theorem eq_or_eq_cons_unsigned (cs : List Char) : cs = unsigned cs ∨ cs = '+' :: unsigned cs := by
  rw [unsigned.eq_def]
  split
  · exact .inr rfl
  · exact .inl rfl

/-- A sign is no digit, so there is only one way to leave it off. -/
theorem exists_unsigned_iff {P : List Char → Prop}
    (starts : ∀ ds, P ds → ∃ c rest, ds = c :: rest ∧ c.isDigit = true) :
    (∃ ds, (cs = ds ∨ cs = '+' :: ds) ∧ P ds) ↔ P (unsigned cs) := by
  constructor
  · rintro ⟨ds, rfl | rfl, holds⟩
    · obtain ⟨c, rest, rfl, digit⟩ := starts cs holds
      rwa [unsigned_of_isDigit digit]
    · exact holds
  · exact fun holds => ⟨_, eq_or_eq_cons_unsigned cs, holds⟩

theorem readNumeral_eq : readNumeral bound cs =
    if unsigned cs = [] then .error .invalidDigit else readDigits bound 0 (unsigned cs) := by
  rw [readNumeral.eq_def]
  split
  · rfl
  · rfl
  · next some_ => rw [unsigned, if_neg some_]
  · next some_ _ unsigned_ =>
      rw [unsigned.eq_2 _ unsigned_, if_neg some_]

theorem isNumeral_iff : IsNumeral cs n ↔ unsigned cs ≠ [] ∧
    (∀ c ∈ unsigned cs, c.isDigit = true) ∧ Nat.ofDigitChars 10 (unsigned cs) 0 = n := by
  refine exists_unsigned_iff ?_
  rintro ds ⟨some_, digits, -⟩
  obtain ⟨c, rest, rfl⟩ := List.exists_cons_of_ne_nil some_
  exact ⟨c, rest, rfl, digits c List.mem_cons_self⟩

theorem outgrows_iff (positive : 0 < bound) : Outgrows bound cs ↔ ∃ front, front <+: unsigned cs ∧
    (∀ c ∈ front, c.isDigit = true) ∧ bound ≤ Nat.ofDigitChars 10 front 0 := by
  refine exists_unsigned_iff ?_
  rintro ds ⟨front, before, digits, large⟩
  cases front with
  | nil => exact absurd positive (Nat.not_lt.2 large)
  | cons c front =>
      obtain ⟨rest, rfl⟩ := before
      exact ⟨c, front ++ rest, rfl, digits c List.mem_cons_self⟩

/-- Numerals below the bound are read, and no other texts. -/
theorem readNumeral_eq_ok_iff (positive : 0 < bound) :
    readNumeral bound cs = .ok n ↔ IsNumeral cs n ∧ n < bound := by
  rw [readNumeral_eq, isNumeral_iff]
  split
  · next none => exact iff_of_false nofun fun h => h.1.1 none
  · next some_ => rw [readDigits_eq_ok_iff positive, and_iff_right some_, and_assoc]

/-- A text is too large exactly if it outgrows the bound, whether it is a numeral or not. -/
theorem readNumeral_eq_tooLarge_iff (positive : 0 < bound) :
    readNumeral bound cs = .error .tooLarge ↔ Outgrows bound cs := by
  rw [readNumeral_eq, outgrows_iff positive]
  split
  · next none =>
      refine iff_of_false nofun ?_
      rw [none]
      rintro ⟨front, before, -, large⟩
      cases List.prefix_nil.1 before
      exact absurd positive (Nat.not_lt.2 large)
  · exact readDigits_eq_tooLarge_iff positive

/-- What is wrong with a text that is no numeral below the bound. -/
theorem readNumeral_eq_error_iff (positive : 0 < bound) {fault : NumeralFault} :
    readNumeral bound cs = .error fault ↔
      (¬ ∃ n, IsNumeral cs n ∧ n < bound) ∧ (fault = .tooLarge ↔ Outgrows bound cs) := by
  simp only [← readNumeral_eq_ok_iff positive, ← readNumeral_eq_tooLarge_iff positive]
  cases readNumeral bound cs with
  | ok n => exact iff_of_false nofun fun h => h.1 ⟨n, rfl⟩
  | error actual => cases actual <;> cases fault <;> simp

end OfferDispatch.Text
