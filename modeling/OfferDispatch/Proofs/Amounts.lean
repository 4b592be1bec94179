import Mathlib
import OfferDispatch.Amount
import OfferDispatch.Power

/-!
# Amounts and what stands for a missing one

A resource that is not offered counts as a negative amount, so that no request is at most as much.
For that, what is requested must not be negative itself. The cpus of a worker are checked when its
request comes in. The memory is computed: it is the product of two numbers without a sign, and
neither rounding nor packing a float gives it one.
-/

namespace OfferDispatch

open Float.Model Float.Model.UnpackedFloat

/-- The float is not a number, or it is a number without a sign. -/
def IsUnsigned : UnpackedFloat → Prop
  | .notANumber => True
  | .infinity s | .zero s | .finite s _ _ _ => s = .positive

/-! ## Signs of computed floats -/

section

variable {format : Format} {u v : UnpackedFloat}

theorem isUnsigned_unpack {bits : BitVec format.numBits} (h : unpackSign bits = 0#1) :
    IsUnsigned (UnpackedFloat.unpack format bits) := by
  have positive : Sign.ofBitVec (unpackSign bits) = .positive := by
    rw [h]
    rfl
  rw [UnpackedFloat.unpack]
  simp only [positive]
  split
  · split
    · rfl
    · trivial
  · split
    · split <;> rfl
    · rfl

theorem unpackSign_pack (h : IsUnsigned u) :
    unpackSign (UnpackedFloat.pack format u) = 0#1 := by
  cases u with
  | notANumber => exact unpackSign_packComponents .positive _ _
  | infinity s | zero s =>
      cases h
      exact unpackSign_packComponents .positive _ _
  | finite s mantissa exponent pos =>
      cases h
      simp only [UnpackedFloat.pack]
      split
      · exact unpackSign_packComponents .positive _ _
      · split <;> exact unpackSign_packComponents .positive _ _

/-- Packing a float gives it no sign. -/
theorem isUnsigned_unpack_pack (h : IsUnsigned u) : IsUnsigned (Float.Model.pack u).unpack :=
  isUnsigned_unpack (unpackSign_pack h)

/-- Rounding gives a float no sign. -/
theorem isUnsigned_roundWithAccuracy (mantissa : Nat) (exponent : Int) (accuracy : Accuracy) :
    IsUnsigned (roundWithAccuracy format .positive mantissa exponent accuracy) := by
  simp only [roundWithAccuracy]
  split <;> rfl

theorem isUnsigned_mul (hu : IsUnsigned u) (hv : IsUnsigned v) :
    IsUnsigned (UnpackedFloat.mul format u v) := by
  cases u <;> cases v <;> cases hu <;> cases hv <;>
    first | trivial | rfl | exact isUnsigned_roundWithAccuracy ..

theorem isUnsigned_ofNat (n : Nat) : IsUnsigned (UnpackedFloat.ofNat format n) := by
  simp only [UnpackedFloat.ofNat, UnpackedFloat.ofInt, UnpackedFloat.normalize]
  split
  · next negative =>
      have := Int.compare_eq_lt.1 negative
      omega
  · rfl
  · exact isUnsigned_roundWithAccuracy ..

end

/-! ## Comparison with a missing amount -/

theorem le_iff_unpack_le {x y : Float} :
    x ≤ y ↔ x.toModel.unpack.le y.toModel.unpack = true := by
  change decide (x.toModel ≤ y.toModel) = true ↔ _
  rw [decide_eq_true_iff]
  exact Iff.rfl

theorem unpack_of_isNaN {x : Float} (h : x.isNaN) : x.toModel.unpack = .notANumber := by
  have none : x.toModel.unpack.isNaN = true := h
  cases u : x.toModel.unpack with
  | notANumber => rfl
  | infinity | zero | finite =>
      rw [u] at none
      cases none

/-- No comparison with what is not a number holds. -/
theorem not_le_of_isNaN {x y : Float} (h : x.isNaN ∨ y.isNaN) : ¬ x ≤ y := by
  rw [le_iff_unpack_le]
  obtain left | right := h
  · rw [unpack_of_isNaN left]
    exact Bool.false_ne_true
  · rw [unpack_of_isNaN right]
    cases x.toModel.unpack with
    | infinity s => cases s <;> exact Bool.false_ne_true
    | notANumber | zero | finite => exact Bool.false_ne_true

theorem unpack_missing : (Amount.missing : Float).toModel.unpack =
    .finite .negative (2 ^ 52) (-52) (by decide) := by
  rfl

theorem unpack_zero : (0.0 : Float).toModel.unpack = .zero .positive := by
  rfl

theorem not_le_missing_of_isUnsigned {x : Float} (h : IsUnsigned x.toModel.unpack) :
    ¬ x ≤ Amount.missing := by
  rw [le_iff_unpack_le, unpack_missing]
  cases u : x.toModel.unpack <;> rw [u] at h <;> cases h <;> exact Bool.false_ne_true

/-- What is not negative is not at most as much as what is missing. -/
theorem not_le_missing_of_nonneg {x : Float} (h : 0.0 ≤ x) : ¬ x ≤ Amount.missing := by
  rw [le_iff_unpack_le, unpack_zero] at h
  rw [le_iff_unpack_le, unpack_missing]
  cases u : x.toModel.unpack with
  | notANumber | zero => exact Bool.false_ne_true
  | infinity s | finite s =>
      rw [u] at h
      cases s with
      | negative => cases h
      | positive => exact Bool.false_ne_true

/-- The memory of a worker is not at most as much as memory that is missing. -/
theorem not_padded_le_missing (memory : UInt32) :
    ¬ (Amount.padded memory : Float) ≤ Amount.missing := by
  have converted : IsUnsigned memory.toFloat.toModel.unpack :=
    isUnsigned_unpack_pack (isUnsigned_ofNat memory.toNat)
  have share : IsUnsigned ((1.0 + 0.1 : Float)).toModel.unpack := by rfl
  exact not_le_missing_of_isUnsigned (isUnsigned_unpack_pack (isUnsigned_mul share converted))

/-- If there is enough for a request that is more than what is missing, then there is something. -/
theorem exists_amount_of_le {requested : Float} {held? : Option Float}
    (real : ¬ requested ≤ Amount.missing)
    (enough : Amount.le requested (held?.getD Amount.missing) = true) :
    ∃ amount, held? = some amount ∧ requested ≤ amount := by
  cases held? with
  | none => exact absurd (of_decide_eq_true enough) real
  | some amount => exact ⟨amount, rfl, of_decide_eq_true enough⟩

end OfferDispatch
