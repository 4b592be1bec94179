import Mathlib
import OfferDispatch.Json.Basic

/-!
# Whole numbers as floats

A whole number of 64 bits, with or without a sign, is a finite float. It is rounded, and rounding
can make a number larger; but neither the bits of the number nor its exponent grow by more than a
few, and the largest exponent of a float is far away.
-/

namespace OfferDispatch

open Float.Model Float.Model.UnpackedFloat

/-- The float is zero, or it is finite with so many bits after the first and at most this
exponent. -/
def IsWithin (bits exponent : Nat) : UnpackedFloat → Prop
  | .notANumber | .infinity _ => False
  | .zero _ => True
  | .finite _ mantissa x _ => mantissa.log2 ≤ bits ∧ x ≤ exponent

section

variable {bits exponent : Nat} {u v : UnpackedFloat}

theorem IsWithin.isFinite (h : IsWithin bits exponent u) : u.isFinite = true := by
  cases u <;> first | rfl | exact h.elim

theorem IsWithin.neg (h : IsWithin bits exponent u) : IsWithin bits exponent u.neg := by
  cases u <;> exact h

theorem IsWithin.mono {exponent' : Nat} (h : IsWithin bits exponent u) (le : exponent ≤ exponent') :
    IsWithin bits exponent' u := by
  cases u with
  | notANumber | infinity => exact h.elim
  | zero => trivial
  | finite s m x pos => exact ⟨h.1, h.2.trans (Int.ofNat_le.2 le)⟩

/-! ## Rounding -/

theorem log2_le_of_le {m n : Nat} (h : m ≤ n) : m.log2 ≤ n.log2 := by
  by_cases zero : m = 0
  · subst zero
    exact Nat.zero_le _
  · exact (Nat.le_log2 (by omega)).2 ((Nat.log2_self_le zero).trans h)

theorem log2_succ_le (n : Nat) : (n + 1).log2 ≤ n.log2 + 1 := by
  have bound : n + 1 < 2 ^ (n.log2 + 2) := by
    have bound' : n < 2 ^ (n.log2 + 1) := Nat.lt_log2_self
    rw [Nat.pow_succ]
    omega
  exact Nat.le_of_lt_succ ((Nat.log2_lt (Nat.succ_ne_zero n)).2 bound)

theorem mantissa_shiftRight_le (em : ExtendedMantissa) (n : Nat) :
    (em >>> n).mantissa ≤ em.mantissa := by
  change (n.repeat ExtendedMantissa.shiftRightOne em).mantissa ≤ em.mantissa
  induction n with
  | zero => exact le_rfl
  | succ n ih => exact (Nat.div_le_self _ 2).trans ih

theorem mantissa_ofMantissaAndAccuracy (m : Nat) (a : Accuracy) :
    (ExtendedMantissa.ofMantissaAndAccuracy m a).mantissa = m := by
  simp only [ExtendedMantissa.ofMantissaAndAccuracy]
  split <;> rfl

theorem roundedMantissa_le (em : ExtendedMantissa) : em.roundedMantissa ≤ em.mantissa + 1 := by
  simp only [ExtendedMantissa.roundedMantissa, Accuracy.roundToNearestEven]
  split <;> omega

/-- Shifting a mantissa into place only makes it smaller, and it raises the exponent by at most as
many as the mantissa has bits. -/
theorem shiftToTargetExponent_le (m : Nat) (x : Int) (a : Accuracy) :
    (shiftToTargetExponent Format.binary64 m x a).1.mantissa ≤ m ∧
      (shiftToTargetExponent Format.binary64 m x a).2 ≤ max x 0 + m.log2 := by
  have shifted := mantissa_shiftRight_le (ExtendedMantissa.ofMantissaAndAccuracy m a)
    (Format.binary64.targetExponent (totalExponent m x) - x).toNat
  rw [mantissa_ofMantissaAndAccuracy] at shifted
  refine ⟨shifted, ?_⟩
  simp only [shiftToTargetExponent, shiftToExponent, Format.targetExponent, totalExponent,
    Format.mantissaBits, Format.minExponent]
  omega

/-- Rounding adds a bit at most. -/
theorem isWithin_roundWithAccuracy {m : Nat} {x : Int} (s : Sign) (a : Accuracy)
    (short : m.log2 ≤ bits) (low : x ≤ exponent) :
    IsWithin (bits + 1) (exponent + 2 * bits + 1)
      (roundWithAccuracy Format.binary64 s m x a) := by
  obtain ⟨mantissa, raised⟩ := shiftToTargetExponent_le m x a
  have rounded := roundedMantissa_le (shiftToTargetExponent Format.binary64 m x a).1
  obtain ⟨mantissa', raised'⟩ := shiftToTargetExponent_le
    (shiftToTargetExponent Format.binary64 m x a).1.roundedMantissa
    (shiftToTargetExponent Format.binary64 m x a).2 .exact
  have oneMore := (log2_le_of_le (rounded.trans (Nat.succ_le_succ mantissa))).trans
    (log2_succ_le m)
  simp only [roundWithAccuracy]
  split
  · trivial
  · have short' := (log2_le_of_le mantissa').trans oneMore
    exact ⟨by omega, by omega⟩

/-! ## Packing -/

/-- Bits without the exponent of an infinity are those of a finite float. -/
theorem isWithin_unpack {s : Sign} {x : BitVec 11} {m : BitVec 52} (finite : x ≠ -1#11)
    (low : (x.toNat : Int) ≤ exponent + 1075) :
    IsWithin 52 exponent (UnpackedFloat.unpack Format.binary64
      (packComponents Format.binary64 s x m)) := by
  have short : m.toNat.log2 ≤ 52 :=
    (log2_le_of_le (Nat.le_of_lt m.isLt)).trans (Nat.log2_two_pow).le
  have normal : (1#1 ++ m).toNat.log2 ≤ 52 := by
    by_cases zero : (1#1 ++ m).toNat = 0
    · rw [zero]
      decide
    · exact Nat.le_of_lt_succ ((Nat.log2_lt zero).2 (1#1 ++ m).isLt)
  have bias : (Format.binary64.exponentBias : Int) + (52 : Nat) = 1075 := by rfl
  simp only [UnpackedFloat.unpack, unpackExponent_packComponents, unpackMantissa_packComponents]
  rw [if_neg finite]
  split
  · split
    · trivial
    · next subnormal _ =>
        have zero : x.toNat = 0 := by rw [subnormal, BitVec.toNat_ofNat, Nat.zero_mod]
        exact ⟨short, by omega⟩
  · refine ⟨normal, ?_⟩
    omega

/-- A float with a small exponent is packed as a finite one. -/
theorem isWithin_unpack_pack (h : IsWithin bits exponent u) (small : exponent ≤ 971) :
    IsWithin 52 exponent (Float.Model.pack u).unpack := by
  change IsWithin 52 exponent
    (UnpackedFloat.unpack Format.binary64 (UnpackedFloat.pack Format.binary64 u))
  cases u with
  | notANumber | infinity => exact h.elim
  | zero s => exact isWithin_unpack (by decide) (Int.natCast_nonneg (exponent + 1075))
  | finite s m x pos =>
      obtain ⟨-, low⟩ := h
      have bias : (Format.binary64.exponentBias : Int) + (52 : Nat) = 1075 := by rfl
      have biased : (x + Format.binary64.exponentBias + (52 : Nat)).toNat < 2047 := by omega
      simp only [UnpackedFloat.pack]
      rw [if_neg (by omega)]
      have value : (BitVec.ofNat 11 (x + Format.binary64.exponentBias + (52 : Nat)).toNat).toNat =
          (x + Format.binary64.exponentBias + (52 : Nat)).toNat := by
        rw [BitVec.toNat_ofNat, Nat.mod_eq_of_lt (by omega)]
      split
      · refine isWithin_unpack (fun infinite => ?_) (by omega)
        rw [infinite] at value
        exact absurd (value.symm.trans (by decide : (-1#11).toNat = 2047)) biased.ne
      · exact isWithin_unpack (by decide) (Int.natCast_nonneg (exponent + 1075))

/-! ## Whole numbers -/

theorem log2_mul_le (m n : Nat) : (m * n).log2 ≤ m.log2 + n.log2 + 1 := by
  by_cases zero : m * n = 0
  · rw [zero]
    exact Nat.zero_le _
  · have bound : m * n < 2 ^ (m.log2 + 1) * 2 ^ (n.log2 + 1) :=
      Nat.mul_lt_mul'' Nat.lt_log2_self Nat.lt_log2_self
    rw [← Nat.pow_add] at bound
    exact Nat.le_of_lt_succ (((Nat.log2_lt zero).2 bound).trans_eq (by omega))

theorem log2_shiftLeft_le (m n : Nat) : (m <<< n).log2 ≤ m.log2 + n := by
  by_cases zero : m <<< n = 0
  · rw [zero]
    exact Nat.zero_le _
  · have bound : m * 2 ^ n < 2 ^ (m.log2 + 1) * 2 ^ n :=
      Nat.mul_lt_mul_of_pos_right Nat.lt_log2_self (by positivity)
    rw [← Nat.pow_add, ← Nat.shiftLeft_eq] at bound
    exact Nat.le_of_lt_succ (((Nat.log2_lt zero).2 bound).trans_eq (by omega))

/-- The product of two floats has the bits of both, and the exponents add up. -/
theorem isWithin_mul {bits' exponent' : Nat} (hu : IsWithin bits exponent u)
    (hv : IsWithin bits' exponent' v) :
    IsWithin (bits + bits' + 2) (exponent + exponent' + 2 * (bits + bits' + 1) + 1)
      (UnpackedFloat.mul Format.binary64 u v) := by
  cases u with
  | notANumber | infinity => exact hu.elim
  | zero =>
      cases v with
      | notANumber | infinity => exact hv.elim
      | zero | finite => trivial
  | finite s m x pos =>
      cases v with
      | notANumber | infinity => exact hv.elim
      | zero => trivial
      | finite s' m' x' pos' =>
          obtain ⟨short, low⟩ := hu
          obtain ⟨short', low'⟩ := hv
          have product := log2_mul_le m m'
          exact isWithin_roundWithAccuracy _ _ (by omega) (by omega)

/-- A whole number that a float has room for is padded with zero bits, and rounded then. -/
theorem isWithin_ofNat {n : Nat} (h : n < 2 ^ 53) :
    IsWithin 106 211 (UnpackedFloat.ofNat Format.binary64 n) := by
  have short : n.log2 ≤ 52 :=
    (log2_le_of_le (Nat.le_sub_one_of_lt h)).trans (by decide)
  simp only [UnpackedFloat.ofNat, UnpackedFloat.ofInt, UnpackedFloat.normalize]
  split
  · next negative =>
      have := Int.compare_eq_lt.1 negative
      omega
  · trivial
  · have target : 0 - Format.binary64.targetExponent (totalExponent n 0) ≤ 53 := by
      simp only [Format.targetExponent, totalExponent, Format.mantissaBits]
      omega
    have padded := log2_shiftLeft_le n
      (0 - Format.binary64.targetExponent (totalExponent n 0)).toNat
    simp only [UnpackedFloat.round, decreaseExponent, Int.toNat_natCast]
    exact isWithin_roundWithAccuracy _ _ (by omega : _ ≤ 105) (by omega : _ ≤ ((0 : Nat) : Int))

/-- Beyond that, it is rounded. -/
theorem isWithin_ofScientific {n : Nat} (h : n < 2 ^ 64) :
    IsWithin 119 237 (UnpackedFloat.ofScientific Format.binary64 n (0 : Nat)) := by
  have short : n.log2 ≤ 63 :=
    (log2_le_of_le (Nat.le_sub_one_of_lt h)).trans (by decide)
  have shifted := log2_shiftLeft_le n 53
  rw [UnpackedFloat.ofScientific]
  split
  · trivial
  · have notTiny : ¬ ((0 : Nat) : Int) < -((2 : Int) ^ Format.binary64.exponentBits + n.log2) := by
      simp only [Nat.cast_zero]
      omega
    rw [if_neg (by decide), if_neg notTiny, if_pos (by decide)]
    refine @isWithin_mul 117 0 _ _ 0 0 ?_ ?_
    · exact ⟨shifted.trans (by omega), by decide⟩
    · exact ⟨by decide, by decide⟩

/-- A whole number of 64 bits is far from the largest float. -/
theorem isWithin_toFloat {n : Nat} (h : n < 2 ^ 64) :
    IsWithin 52 430 (Float.ofNat n).toModel.unpack := by
  change IsWithin 52 430 (Float.ofScientific n false 0).toModel.unpack
  rw [Float.ofScientific]
  split
  · next small =>
      have value : n.toUInt64.toNat = n := Nat.mod_eq_of_lt h
      have converted : IsWithin 52 211 n.toUInt64.toFloat.toModel.unpack :=
        isWithin_unpack_pack (value.symm ▸ isWithin_ofNat small.1) (by decide)
      have one : IsWithin 52 0 (Float.ofBits 0x3FF0000000000000).toModel.unpack :=
        ⟨by decide, by decide⟩
      exact (isWithin_unpack_pack (isWithin_mul converted one) (by decide)).mono (by decide)
  · exact (isWithin_unpack_pack (isWithin_ofScientific h) (by decide)).mono (by decide)

/-- A whole number of 64 bits, with or without a sign, is finite as a float. -/
theorem isFinite_ofInt {n : Int} (h : -2 ^ 63 ≤ n ∧ n < 2 ^ 64) :
    (Float.ofInt n).isFinite = true := by
  cases n with
  | ofNat n => exact (isWithin_toFloat (Int.ofNat_lt.1 h.2)).isFinite
  | negSucc n =>
      exact (isWithin_unpack_pack (isWithin_toFloat (by omega)).neg (by decide)).isFinite

end

end OfferDispatch
