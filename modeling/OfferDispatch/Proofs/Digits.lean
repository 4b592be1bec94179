import Mathlib.Data.List.Induction
import OfferDispatch.Id.FrameworkId

/-!
# Base-32 digits

A number that is written with so many digits is read back up to what they can hold, and a text of
digits is read as a number whose digits are the text in capitals. The alphabet has gaps, but each of
its characters is one byte and has one value, in either case.
-/

namespace OfferDispatch.Ulid

/-! ## Single digits -/

/-- A digit in either case: a decimal digit, or a letter that is not one of the four left out. -/
def IsDigit (c : Char) : Prop :=
  c.isDigit = true ∨ c.isAlpha = true ∧ c.toUpper ∉ ['I', 'L', 'O', 'U']

instance : DecidablePred IsDigit := fun _ => inferInstanceAs (Decidable (_ ∨ _))

/-- Digits are characters of one byte, so what holds of all these holds of digits. -/
theorem forall_of_lt {P : Char → Prop} (small : ∀ n < 128, P (Char.ofNat n)) {c : Char}
    (h : c.toNat < 128) : P c := by
  rw [← Char.ofNat_toNat c]
  exact small _ h

theorem isSome_digitValue?_ascii :
    ∀ n < 128, (digitValue? (Char.ofNat n)).isSome = true ↔ IsDigit (Char.ofNat n) := by
  decide +kernel

theorem le_seven_iff_ascii :
    ∀ n < 128, ∀ d ∈ digitValue? (Char.ofNat n), d ≤ 7 ↔ Char.ofNat n ≤ '7' := by
  decide +kernel

theorem toUpper_eq_self {c : Char} (h : 128 ≤ c.toNat) : c.toUpper = c := by
  delta Char.toUpper
  rw [dif_neg]
  rintro ⟨-, last⟩
  have last : c.toNat ≤ 122 := last
  omega

theorem lt_of_mem_alphabet {c : Char} (h : c ∈ alphabet) : c.toNat < 128 := by
  have all : alphabet.all (fun c => decide (c.toNat < 128)) = true := by decide
  exact of_decide_eq_true (List.all_eq_true.1 all c h)

theorem lt_of_isDigit {c : Char} (h : IsDigit c) : c.toNat < 128 := by
  by_contra large
  delta IsDigit Char.isDigit Char.isAlpha Char.isUpper Char.isLower at h
  simp only [Bool.or_eq_true, Bool.and_eq_true, decide_eq_true_eq, ge_iff_le,
    UInt32.le_iff_toNat_le] at h
  have value : c.toNat = c.val.toNat := rfl
  have numeral : '9'.val.toNat = 57 := rfl
  have capital : 'Z'.val.toNat = 90 := rfl
  have letter : 'z'.val.toNat = 122 := rfl
  omega

/-- Digits are of one byte each. -/
theorem utf8Size_of_isDigit {c : Char} (h : IsDigit c) : c.utf8Size = 1 := by
  rw [Char.utf8Size_eq_one_iff, UInt32.le_iff_toNat_le]
  exact Nat.le_of_lt_succ (lt_of_isDigit h)

/-- A character has a value exactly if it is a digit. -/
theorem isSome_digitValue?_iff {c : Char} : (digitValue? c).isSome = true ↔ IsDigit c := by
  by_cases small : c.toNat < 128
  · exact forall_of_lt (P := fun c => (digitValue? c).isSome = true ↔ IsDigit c)
      isSome_digitValue?_ascii small
  · have large : 128 ≤ c.toNat := Nat.not_lt.1 small
    refine iff_of_false (fun value => ?_) fun digit => small (lt_of_isDigit digit)
    obtain ⟨d, value⟩ := Option.isSome_iff_exists.1 value
    rw [digitValue?, toUpper_eq_self large, List.idxOf?_eq_some_iff] at value
    obtain ⟨within, same, -⟩ := value
    exact small (lt_of_mem_alphabet (same ▸ List.getElem_mem within))

/-- The digit of the value of a character is its capital. -/
theorem digit_of_digitValue? {c : Char} {d : Nat} (h : digitValue? c = some d) :
    d < 32 ∧ digit d = c.toUpper := by
  obtain ⟨within, same, -⟩ := List.idxOf?_eq_some_iff.1 h
  refine ⟨within, ?_⟩
  rw [digit, List.getD_eq_getElem?_getD, List.getElem?_eq_getElem within, Option.getD_some, same]

theorem le_seven_iff {c : Char} {d : Nat} (h : digitValue? c = some d) : d ≤ 7 ↔ c ≤ '7' := by
  have small : c.toNat < 128 := lt_of_isDigit (isSome_digitValue?_iff.1 (Option.isSome_of_eq_some h))
  exact forall_of_lt (P := fun c => ∀ d ∈ digitValue? c, d ≤ 7 ↔ c ≤ '7') le_seven_iff_ascii small
    d h

theorem digitValue?_digit : ∀ n < 32, digitValue? (digit n) = some n := by
  decide +kernel

/-- What is written is a digit, and a capital if it is a letter. -/
theorem isDigit_digit : ∀ n < 32, IsDigit (digit n) ∧ (digit n).toUpper = digit n := by
  decide +kernel

/-! ## Numbers -/

theorem length_digits (count n : Nat) : (digits count n).length = count := by
  induction count generalizing n with
  | zero => rfl
  | succ count ih => rw [digits, List.length_append, ih, List.length_singleton]

theorem forall_mem_digits {count n : Nat} :
    ∀ c ∈ digits count n, IsDigit c ∧ c.toUpper = c := by
  induction count generalizing n with
  | zero => exact List.forall_mem_nil _
  | succ count ih =>
      rw [digits, List.forall_mem_append]
      exact ⟨ih, List.forall_mem_singleton.2 (isDigit_digit _ (Nat.mod_lt _ (by decide)))⟩

theorem readDigits?_append (n : Nat) (cs ds : List Char) :
    readDigits? n (cs ++ ds) = (readDigits? n cs).bind fun m => readDigits? m ds := by
  induction cs generalizing n with
  | nil => rfl
  | cons c cs ih =>
      rw [List.cons_append, readDigits?, readDigits?, Option.bind_assoc]
      exact Option.bind_congr fun d _ => ih _

theorem readDigits?_singleton (n : Nat) (c : Char) :
    readDigits? n [c] = (digitValue? c).map fun d => n * 32 + d := by
  rw [readDigits?, Option.map_eq_bind]
  rfl

/-- Digits are read back as the number they were written for, up to what they can hold. -/
theorem readDigits?_digits (m count n : Nat) :
    readDigits? m (digits count n) = some (m * 32 ^ count + n % 32 ^ count) := by
  induction count generalizing n with
  | zero => simp [digits, readDigits?, Nat.mod_one]
  | succ count ih =>
      have last : n % 32 < 32 := Nat.mod_lt _ (by decide)
      have split : n % 32 ^ (count + 1) = n / 32 % 32 ^ count * 32 + n % 32 := by
        rw [Nat.pow_succ', Nat.mod_mul]
        omega
      have shift : m * 32 ^ (count + 1) = m * 32 ^ count * 32 := by
        rw [Nat.pow_succ, Nat.mul_assoc]
      rw [digits, readDigits?_append, ih, Option.bind_some, readDigits?_singleton,
        digitValue?_digit _ last, Option.map_some, split, shift, Nat.add_mul, Nat.add_assoc]

/-- Numbers that fit are told apart by their digits. -/
theorem digits_inj {count m n : Nat} (left : m < 32 ^ count) (right : n < 32 ^ count)
    (same : digits count m = digits count n) : m = n := by
  have read := congrArg (readDigits? 0) same
  rwa [readDigits?_digits, readDigits?_digits, Nat.mod_eq_of_lt left, Nat.mod_eq_of_lt right,
    Nat.zero_mul, Nat.zero_add, Nat.zero_add, Option.some_inj] at read

/-- Texts of digits are read, and no others. -/
theorem isSome_readDigits?_iff {n : Nat} {cs : List Char} :
    (readDigits? n cs).isSome = true ↔ ∀ c ∈ cs, IsDigit c := by
  induction cs generalizing n with
  | nil => exact iff_of_true rfl (List.forall_mem_nil _)
  | cons c cs ih =>
      rw [List.forall_mem_cons, ← isSome_digitValue?_iff, readDigits?]
      cases digitValue? c with
      | none => simp
      | some d => simpa using ih

/-- What is read from a text has the text for its digits, in capitals. -/
theorem digits_of_readDigits? {cs : List Char} {n : Nat} (h : readDigits? 0 cs = some n) :
    n < 32 ^ cs.length ∧ digits cs.length n = cs.map Char.toUpper := by
  induction cs using List.reverseRecOn generalizing n with
  | nil =>
      cases h
      exact ⟨by decide, rfl⟩
  | append_singleton cs c ih =>
      rw [readDigits?_append] at h
      obtain ⟨m, read, h⟩ := Option.bind_eq_some_iff.1 h
      rw [readDigits?_singleton] at h
      obtain ⟨d, value, rfl⟩ := Option.map_eq_some_iff.1 h
      obtain ⟨bound, front⟩ := ih read
      obtain ⟨small, last⟩ := digit_of_digitValue? value
      have quotient : (m * 32 + d) / 32 = m := by omega
      have remainder : (m * 32 + d) % 32 = d := by omega
      rw [List.length_append, List.length_singleton]
      refine ⟨by rw [Nat.pow_succ]; omega, ?_⟩
      rw [digits, quotient, remainder, front, last, List.map_append, List.map_singleton]

/-- What has been read before counts for as much more as there are digits to come. -/
theorem readDigits?_eq_map (n : Nat) (cs : List Char) :
    readDigits? n cs = (readDigits? 0 cs).map fun m => n * 32 ^ cs.length + m := by
  induction cs generalizing n with
  | nil => simp [readDigits?]
  | cons c cs ih =>
      rw [readDigits?, readDigits?, Option.map_bind]
      refine Option.bind_congr fun d _ => ?_
      rw [ih (n * 32 + d), Function.comp_apply, ih (0 * 32 + d), Option.map_map]
      refine Option.map_congr fun m _ => ?_
      rw [Function.comp_apply, List.length_cons, Nat.pow_succ', ← Nat.mul_assoc, Nat.add_mul,
        Nat.zero_mul, Nat.zero_add, Nat.add_assoc]

/-- The first digit counts most: it alone decides whether a number stays below eight times what the
others can hold. -/
theorem readDigits?_lt_iff {c : Char} {cs : List Char} {n : Nat}
    (h : readDigits? 0 (c :: cs) = some n) : n < 8 * 32 ^ cs.length ↔ c ≤ '7' := by
  obtain ⟨d, value, h⟩ := Option.bind_eq_some_iff.1 h
  rw [readDigits?_eq_map] at h
  obtain ⟨m, read, rfl⟩ := Option.map_eq_some_iff.1 h
  obtain ⟨bound, -⟩ := digits_of_readDigits? read
  rw [← le_seven_iff value, Nat.zero_mul, Nat.zero_add]
  constructor
  · intro less
    by_contra large
    have more : 8 * 32 ^ cs.length ≤ d * 32 ^ cs.length :=
      Nat.mul_le_mul_right _ (Nat.not_le.1 large)
    omega
  · intro small
    have less : d * 32 ^ cs.length ≤ 7 * 32 ^ cs.length := Nat.mul_le_mul_right _ small
    omega

end OfferDispatch.Ulid
