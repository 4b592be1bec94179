import Mathlib.Data.List.Sort
import OfferDispatch.Proofs.Digits

/-!
# The order of framework ids

Ids are ordered as their numbers are, and a number begins with the time at which it was drawn. Texts
are ordered byte by byte. All ids have the same mark and as many digits, and digits are ordered like
their values, so that the texts of ids come in the order of the ids, and both in the order of time.
-/

namespace OfferDispatch

/-! ## Texts of one length -/

/-- Of two texts of one length, the last character matters only if all before it are the same. -/
theorem append_singleton_lt_iff {α : Type} [LT α] {l m : List α} {a b : α}
    (h : l.length = m.length) : l ++ [a] < m ++ [b] ↔ l < m ∨ l = m ∧ a < b := by
  induction l generalizing m with
  | nil =>
      obtain rfl := List.length_eq_zero_iff.1 h.symm
      simp [List.cons_lt_cons_iff]
  | cons c l ih =>
      cases m with
      | nil => cases h
      | cons d m =>
          have step := ih (Nat.succ.inj h)
          simp only [List.cons_append, List.cons_lt_cons_iff, step, List.cons.injEq]
          tauto

/-- What stands in front of both of two texts does not matter. -/
theorem append_lt_append_iff {α : Type} [LT α] [Std.Irrefl (α := α) (· < ·)] (front : List α)
    {l m : List α} : front ++ l < front ++ m ↔ l < m := by
  induction front with
  | nil => rfl
  | cons a front ih =>
      rw [List.cons_append, List.cons_append, List.cons_lt_cons_iff, ih]
      simp [Std.Irrefl.irrefl a]

/-! ## Bytes -/

namespace Text

def bytes (s : String) : List UInt8 := s.toUTF8.data.toList

theorem bytes_ofList (cs : List Char) :
    bytes (String.ofList cs) = cs.flatMap String.utf8EncodeChar := by
  rw [bytes, String.toUTF8, String.toByteArray_ofList, List.utf8Encode]
  simp

theorem bytes_append (s t : String) : bytes (s ++ t) = bytes s ++ bytes t := by
  rw [← String.ofList_toList (s := s), ← String.ofList_toList (s := t), ← String.ofList_append,
    bytes_ofList, bytes_ofList, bytes_ofList, List.flatMap_append]

end Text

namespace Ulid

def byte (c : Char) : UInt8 := c.val.toUInt8

theorem byte_digit_lt_byte_digit_iff :
    ∀ m < 32, ∀ n < 32, byte (digit m) < byte (digit n) ↔ m < n := by
  decide +kernel

theorem byte_digit_inj : ∀ m < 32, ∀ n < 32, byte (digit m) = byte (digit n) ↔ m = n := by
  decide +kernel

theorem bytes_ofList_digits (count n : Nat) :
    Text.bytes (String.ofList (digits count n)) = (digits count n).map byte := by
  rw [Text.bytes_ofList, List.map_eq_flatMap]
  refine List.flatMap_congr fun c there => String.utf8EncodeChar_eq_singleton ?_
  exact utf8Size_of_isDigit (forall_mem_digits c there).1

/-- Numbers that fit are told apart by the bytes of their digits, and these compare like them. -/
theorem map_byte_digits {count m n : Nat} (left : m < 32 ^ count) (right : n < 32 ^ count) :
    ((digits count m).map byte = (digits count n).map byte ↔ m = n) ∧
      ((digits count m).map byte < (digits count n).map byte ↔ m < n) := by
  induction count generalizing m n with
  | zero =>
      obtain rfl := Nat.lt_one_iff.1 left
      obtain rfl := Nat.lt_one_iff.1 right
      simp [digits]
  | succ count ih =>
      rw [Nat.pow_succ'] at left right
      obtain ⟨same, less⟩ := ih (Nat.div_lt_of_lt_mul left) (Nat.div_lt_of_lt_mul right)
      have lastLeft : m % 32 < 32 := Nat.mod_lt _ (by decide)
      have lastRight : n % 32 < 32 := Nat.mod_lt _ (by decide)
      have length : ((digits count (m / 32)).map byte).length =
          ((digits count (n / 32)).map byte).length := by
        rw [List.length_map, List.length_map, length_digits, length_digits]
      simp only [digits, List.map_append, List.map_singleton]
      rw [List.append_singleton_inj, append_singleton_lt_iff length, same, less,
        byte_digit_inj _ lastLeft _ lastRight, byte_digit_lt_byte_digit_iff _ lastLeft _ lastRight]
      omega

end Ulid

namespace FrameworkId

open Text

theorem bytes_text (id : FrameworkId) :
    bytes id.text = bytes "fw_" ++ (Ulid.digits Ulid.width id.ulid.val).map Ulid.byte := by
  rw [← Ulid.bytes_ofList_digits, ← bytes_append]
  rfl

/-- Ids are ordered as their texts are, byte by byte. -/
theorem lt_iff_bytes_lt {a b : FrameworkId} : a < b ↔ bytes a.text < bytes b.text := by
  have room : 2 ^ 128 < 32 ^ Ulid.width := by decide
  have left : a.ulid.val < 32 ^ Ulid.width := Nat.lt_trans a.ulid.isLt room
  have right : b.ulid.val < 32 ^ Ulid.width := Nat.lt_trans b.ulid.isLt room
  rw [bytes_text, bytes_text, append_lt_append_iff, (Ulid.map_byte_digits left right).2]
  rfl

theorem le_iff_bytes_le {a b : FrameworkId} : a ≤ b ↔ bytes a.text ≤ bytes b.text := by
  rw [← List.not_lt, ← lt_iff_bytes_lt]
  exact Fin.not_lt.symm

theorem timestamp_le {a b : FrameworkId} (h : a ≤ b) : a.ulid.timestamp ≤ b.ulid.timestamp :=
  Nat.div_le_div_right h

theorem timestamp_lt (id : FrameworkId) : id.ulid.timestamp < 2 ^ 48 :=
  Nat.div_lt_of_lt_mul id.ulid.isLt

def sorted (ids : List FrameworkId) : List FrameworkId := ids.mergeSort fun a b => decide (a ≤ b)

instance : IsTrans FrameworkId (· ≤ ·) := ⟨fun _ _ _ => Nat.le_trans⟩

instance : Std.Total (α := FrameworkId) (· ≤ ·) := ⟨fun a b => Nat.le_total a.ulid.val b.ulid.val⟩

theorem pairwise_sorted (ids : List FrameworkId) : (sorted ids).Pairwise (· ≤ ·) :=
  List.pairwise_mergeSort' (· ≤ ·) ids

/-- Ids in ascending order are in the order of time. -/
theorem timestamps_sorted (ids : List FrameworkId) :
    (sorted ids).map (·.ulid.timestamp) =
      (ids.map (·.ulid.timestamp)).mergeSort fun s t => decide (s ≤ t) := by
  have ascending : ((sorted ids).map (·.ulid.timestamp)).Pairwise (· ≤ ·) :=
    List.pairwise_map.2 ((pairwise_sorted ids).imp timestamp_le)
  have times := List.pairwise_mergeSort' (· ≤ ·) (ids.map (·.ulid.timestamp))
  have same : ((sorted ids).map (·.ulid.timestamp)).Perm
      ((ids.map (·.ulid.timestamp)).mergeSort fun s t => decide (s ≤ t)) :=
    ((List.mergeSort_perm ids _).map _).trans (List.mergeSort_perm _ _).symm
  exact same.eq_of_pairwise (fun s t _ _ => Nat.le_antisymm) ascending times

/-- The order of ids is that of their texts, byte by byte, and of two ids the later one was drawn no
earlier. So the texts of sorted ids are the sorted texts, and their times the sorted times. -/
theorem ids_ordered_by_text_and_time :
    (∀ a b : FrameworkId, (a < b ↔ bytes a.text < bytes b.text) ∧
      (a ≤ b → a.ulid.timestamp ≤ b.ulid.timestamp) ∧ a.ulid.timestamp < 2 ^ 48) ∧
    ∀ ids : List FrameworkId,
      (sorted ids).map text =
        (ids.map text).mergeSort (fun s t => decide (bytes s ≤ bytes t)) ∧
      (sorted ids).map (·.ulid.timestamp) =
        (ids.map (·.ulid.timestamp)).mergeSort fun s t => decide (s ≤ t) := by
  refine ⟨fun a b => ⟨lt_iff_bytes_lt, timestamp_le, timestamp_lt a⟩, fun ids => ⟨?_, ?_⟩⟩
  · refine List.map_mergeSort fun a _ b _ => ?_
    rw [decide_eq_decide, le_iff_bytes_le]
  · exact timestamps_sorted ids

end FrameworkId

namespace Plain

/-- An id whose last digit stands before a gap of the alphabet. -/
def earlierId : FrameworkId := ⟨⟨2 ^ 80 + 17, by decide⟩⟩

/-- An id that was drawn in the same millisecond, with a last digit from behind the gap. -/
def laterId : FrameworkId := ⟨⟨2 ^ 80 + 18, by decide⟩⟩

theorem ids_ordered_by_text_and_time_pair :
    earlierId ≤ laterId ∧ earlierId.ulid.timestamp ≤ laterId.ulid.timestamp ∧
      earlierId.text = "fw_0000000001000000000000000H" ∧
      laterId.text = "fw_0000000001000000000000000J" ∧
      Text.bytes earlierId.text < Text.bytes laterId.text := by
  obtain ⟨pairs, -⟩ := FrameworkId.ids_ordered_by_text_and_time
  obtain ⟨text, time, -⟩ := pairs earlierId laterId
  have less : earlierId < laterId := by decide +kernel
  have ascending : earlierId ≤ laterId := by decide +kernel
  exact ⟨ascending, time ascending, by decide +kernel, by decide +kernel, text.1 less⟩

end Plain

end OfferDispatch
