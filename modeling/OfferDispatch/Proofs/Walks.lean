import Mathlib.Data.List.Intervals
import OfferDispatch.Proofs.Ports

/-!
# Walking over ranges

Ports are found by a walk over the ranges that are offered. It takes one port after the other, stops
as soon as there are enough, and computes in words. Here every sum and every difference of the walk
is looked at: one that is no word would leave the walk without an answer. That never happens, even
where a range ends with the largest word, for no port is moved past that is the last of its range.
So the walk finds what is found without any counting, and these are the first ones of all integers
from the beginning to the end of each range.

Before the walk, room is made for as many ports as are asked for. This is the only way to get no
answer, and it does not depend on how many ports there are.
-/

namespace OfferDispatch

/-! ## Words -/

/-- The sum of two words, if it is one. -/
def sum? (a b : UInt64) : Option UInt64 :=
  if a.toNat + b.toNat < UInt64.size then some (a + b) else none

/-- The difference of two words, if it is one. -/
def difference? (a b : UInt64) : Option UInt64 := if b ≤ a then some (a - b) else none

theorem sum?_eq_some_iff {a b c : UInt64} :
    sum? a b = some c ↔ c.toNat = a.toNat + b.toNat := by
  rw [sum?]
  split
  · next small =>
      rw [Option.some_inj, ← UInt64.toNat_inj, UInt64.toNat_add, Nat.mod_eq_of_lt small, eq_comm]
  · next large => exact iff_of_false nofun fun same => large (same ▸ c.toNat_lt_size)

theorem exists_sum? {a b : UInt64} (small : a.toNat + b.toNat < UInt64.size) :
    ∃ c, sum? a b = some c :=
  ⟨a + b, if_pos small⟩

theorem difference?_eq_some_iff {a b c : UInt64} :
    difference? a b = some c ↔ a.toNat = b.toNat + c.toNat := by
  rw [difference?]
  split
  · next less =>
      rw [Option.some_inj, ← UInt64.toNat_inj, UInt64.toNat_sub_of_le _ _ less]
      rw [UInt64.le_iff_toNat_le] at less
      omega
  · next more =>
      rw [UInt64.le_iff_toNat_le] at more
      exact iff_of_false nofun fun same => more (same ▸ Nat.le_add_right ..)

theorem exists_difference? {a b : UInt64} (less : b ≤ a) : ∃ c, difference? a b = some c :=
  ⟨a - b, if_pos less⟩

/-! ## The walk -/

/-- Ports that have been found, with their number in a word. -/
structure Found where
  ports : List UInt64
  number : UInt64
  counted : number.toNat = ports.length

namespace Found

def nothing : Found := ⟨[], 0, rfl⟩

def push? (found : Found) (port : UInt64) : Option Found :=
  match h : sum? found.number 1 with
  | none => none
  | some number => some ⟨found.ports ++ [port], number, by
      rw [sum?_eq_some_iff.1 h, found.counted, List.length_append]
      rfl⟩

theorem push?_spec {found : Found} (room : found.ports.length + 1 < UInt64.size) (port : UInt64) :
    ∃ more, found.push? port = some more ∧ more.ports = found.ports ++ [port] := by
  obtain ⟨number, one⟩ : ∃ number, sum? found.number 1 = some number :=
    exists_sum? (by rwa [found.counted])
  rw [push?]
  split
  · next none => rw [one] at none; cases none
  · exact ⟨_, rfl, rfl⟩

end Found

namespace PortRange

/-- Takes ports off a range one by one until so many are taken as are wanted, or the last one is. -/
def collect? (r : PortRange) (wanted : UInt64) (found : Found) : Option Found :=
  if wanted = 0 ∨ r.last < r.first then some found
  else
    match h : difference? wanted 1 with
    | none => none
    | some others =>
      have _fewer : wanted.toNat = 1 + others.toNat := difference?_eq_some_iff.1 h
      if r.first = r.last then found.push? r.first
      else do
        let next ← sum? r.first 1
        let found ← found.push? r.first
        collect? ⟨next, r.last⟩ others found
termination_by wanted.toNat

end PortRange

/-- Walks over ranges until there are as many ports as are asked for. -/
def walk? (count : UInt64) : List PortRange → Found → Option Found
  | [], found => some found
  | r :: rest, found =>
    if count ≤ found.number then some found
    else do
      let wanted ← difference? count found.number
      let found ← r.collect? wanted found
      walk? count rest found

namespace PortRange

/-! ## What the walk takes of a range -/

theorem take_eq_nil {r : PortRange} (empty : r.last < r.first) (count : Nat) :
    r.take count = [] := by
  have none : r.size = 0 := by
    rw [UInt64.lt_iff_toNat_lt] at empty
    rw [size]
    omega
  rw [take, none, Nat.min_zero]
  rfl

theorem take_succ {r : PortRange} (more : r.first < r.last) {next : UInt64}
    (after : next.toNat = r.first.toNat + 1) (count : Nat) :
    r.take (count + 1) = r.first :: take ⟨next, r.last⟩ count := by
  have longer : r.size = size ⟨next, r.last⟩ + 1 := by
    rw [UInt64.lt_iff_toNat_lt] at more
    simp only [size, after]
    omega
  rw [take, take, longer, Nat.succ_min_succ, List.range_succ_eq_map, List.map_cons, List.map_map,
    Nat.add_zero, UInt64.ofNat_toNat]
  refine congrArg (r.first :: ·) (List.map_congr_left fun i _ => ?_)
  rw [Function.comp_apply, after, Nat.succ_eq_add_one, Nat.add_assoc, Nat.add_comm 1]

theorem take_succ_of_eq {r : PortRange} (last : r.first = r.last) (count : Nat) :
    r.take (count + 1) = [r.first] := by
  have one : r.size = 1 := by
    rw [size, last]
    omega
  rw [take, one, Nat.min_eq_right (Nat.le_add_left 1 count), List.range_one, List.map_singleton,
    Nat.add_zero, UInt64.ofNat_toNat]

/-- If there is room for what is wanted, then a range is taken from as if there were no words. -/
theorem collect?_spec (r : PortRange) (wanted : UInt64) (found : Found)
    (room : found.ports.length + wanted.toNat < UInt64.size) :
    ∃ more, r.collect? wanted found = some more ∧
      more.ports = found.ports ++ r.take wanted.toNat := by
  fun_induction collect? r wanted found with
  | case1 r wanted found done =>
      refine ⟨found, rfl, ?_⟩
      obtain rfl | empty := done
      · simp [take]
      · rw [take_eq_nil empty, List.append_nil]
  | case2 r wanted found more none =>
      have some_ : 1 ≤ wanted := by
        rw [UInt64.le_iff_toNat_le]
        exact Nat.pos_of_ne_zero fun none => more (.inl (UInt64.toNat_inj.1 none))
      obtain ⟨others, fewer⟩ := exists_difference? some_
      rw [none] at fewer
      cases fewer
  | case3 r wanted found more others _ count last =>
      obtain ⟨found', pushed, ports⟩ := found.push?_spec (by omega) r.first
      refine ⟨found', pushed, ?_⟩
      rw [ports, count, Nat.add_comm, take_succ_of_eq last]
  | case4 r wanted found more others _ count further ih =>
      have before : r.first < r.last :=
        UInt64.lt_of_le_of_ne (UInt64.not_lt.1 (not_or.1 more).2) further
      -- the first port is not the last one, so the next one is a word
      obtain ⟨next, moved⟩ : ∃ next, sum? r.first 1 = some next :=
        exists_sum? (Nat.lt_of_le_of_lt (UInt64.lt_iff_toNat_lt.1 before) r.last.toNat_lt_size)
      obtain ⟨found', pushed, ports⟩ := found.push?_spec (by omega) r.first
      have room' : found'.ports.length + others.toNat < UInt64.size := by
        rw [ports, List.length_append, List.length_singleton]
        omega
      obtain ⟨all, collected, same⟩ := ih next found' room'
      refine ⟨all, ?_, ?_⟩
      · rw [moved, pushed]
        exact collected
      · rw [same, ports, count, Nat.add_comm, take_succ before (sum?_eq_some_iff.1 moved),
          List.append_assoc, List.singleton_append]

end PortRange

theorem findPorts_zero (ranges : List PortRange) : findPorts ranges 0 = [] := by
  rw [findPorts_eq_take, List.take_zero]

/-- The walk goes on from the ports that have been found as if there were no words. -/
theorem walk?_spec {count : UInt64} (ranges : List PortRange) (found : Found)
    (room : found.ports.length ≤ count.toNat) :
    ∃ all, walk? count ranges found = some all ∧
      all.ports = found.ports ++ findPorts ranges (count.toNat - found.ports.length) := by
  induction ranges generalizing found with
  | nil => exact ⟨found, rfl, (List.append_nil _).symm⟩
  | cons r rest ih =>
      have bound : count.toNat < UInt64.size := count.toNat_lt_size
      rw [walk?]
      split
      · next enough =>
          rw [UInt64.le_iff_toNat_le, found.counted] at enough
          refine ⟨found, rfl, ?_⟩
          rw [Nat.sub_eq_zero_of_le enough, findPorts_zero, List.append_nil]
      · next few =>
          have less : found.number ≤ count := UInt64.le_of_lt (UInt64.not_le.1 few)
          obtain ⟨wanted, missing⟩ := exists_difference? less
          have wants : count.toNat = found.ports.length + wanted.toNat := by
            rw [difference?_eq_some_iff.1 missing, found.counted]
          obtain ⟨found', collected, ports⟩ :=
            r.collect?_spec wanted found (by omega)
          have length : found'.ports.length =
              found.ports.length + min wanted.toNat r.size := by
            rw [ports, List.length_append, PortRange.length_take]
          obtain ⟨all, walked, same⟩ := ih found' (by omega)
          have missing' : count.toNat - found.ports.length = wanted.toNat := by omega
          have others : count.toNat - found'.ports.length = wanted.toNat - r.size := by omega
          refine ⟨all, ?_, ?_⟩
          · rw [missing]
            simp only [Option.bind_eq_bind, Option.bind_some]
            rw [collected]
            exact walked
          · rw [same, others, ports, missing', findPorts, List.append_assoc]

namespace PortRange

/-- The integers from the first port to the last. -/
def integers (r : PortRange) : List Nat := List.Ico r.first.toNat (r.last.toNat + 1)

theorem map_toNat_ports (r : PortRange) : r.ports.map UInt64.toNat = r.integers := by
  rw [ports, take, Nat.min_self, List.map_map, integers, List.Ico, List.range'_eq_map_range]
  exact List.map_congr_left fun i small => toNat_ofNat_of_lt_size (List.mem_range.1 small)

end PortRange

/-! ## Making room -/

/-- Why there is no answer. -/
inductive SearchFault
  /-- There is no list with room for so many ports. -/
  | noRoom
  /-- A sum or a difference is no word. -/
  | noWord
  deriving DecidableEq

/-- Makes room for all ports that are asked for, and walks over the ranges. -/
def searchPorts (ranges : List PortRange) (count : UInt64) : Except SearchFault (List UInt64) :=
  if portRoom < count.toNat then .error .noRoom
  else match walk? count ranges .nothing with
    | none => .error .noWord
    | some found => .ok found.ports

theorem searchPorts_of_room {count : UInt64} (ranges : List PortRange)
    (room : count.toNat ≤ portRoom) :
    searchPorts ranges count = .ok (findPorts ranges count.toNat) := by
  obtain ⟨found, walked, same⟩ := walk?_spec ranges .nothing count.toNat.zero_le
  rw [searchPorts, if_neg (Nat.not_lt.2 room), walked]
  exact congrArg Except.ok same

theorem searchPorts_of_no_room {count : UInt64} (ranges : List PortRange)
    (crowded : portRoom < count.toNat) : searchPorts ranges count = .error .noRoom := by
  rw [searchPorts, if_pos crowded]

theorem map_toNat_findPorts (ranges : List PortRange) (count : Nat) :
    (findPorts ranges count).map UInt64.toNat =
      (ranges.flatMap PortRange.integers).take count := by
  rw [findPorts_eq_take, List.map_take, List.map_flatMap]
  simp only [PortRange.map_toNat_ports]

theorem map_toNat_eq_iff {ports : List UInt64} {ranges : List PortRange} {count : Nat} :
    ports.map UInt64.toNat = (ranges.flatMap PortRange.integers).take count ↔
      findPorts ranges count = ports := by
  rw [← map_toNat_findPorts, eq_comm]
  exact List.map_inj_right fun _ _ => UInt64.toNat_inj.1

theorem exists_mem_of_mem_findPorts {ranges : List PortRange} {count : Nat} {port : UInt64}
    (found : port ∈ findPorts ranges count) : ∃ r ∈ ranges, port ∈ r := by
  rw [findPorts_eq_take] at found
  obtain ⟨r, mem, within⟩ := List.mem_flatMap.1 (List.mem_of_mem_take found)
  exact ⟨r, mem, PortRange.mem_ports_iff.1 within⟩

/-- Ports are found exactly if there is room for as many as are asked for. Then they are the first
ones of all integers in the ranges: as many as are asked for, or all of them if there are fewer. No
sum and no difference ever leaves the words. -/
theorem ports_found_iff_room (ranges : List PortRange) (count : UInt64) :
    (∀ ports, searchPorts ranges count = .ok ports ↔ count.toNat ≤ portRoom ∧
        ports.map UInt64.toNat = (ranges.flatMap PortRange.integers).take count.toNat) ∧
      (∀ ports, searchPorts ranges count = .ok ports →
        ports.length = min count.toNat (ranges.map PortRange.size).sum ∧
          ∀ port ∈ ports, ∃ r ∈ ranges, port ∈ r) ∧
      (searchPorts ranges count = .error .noRoom ↔ portRoom < count.toNat) ∧
      searchPorts ranges count ≠ .error .noWord ∧
      findPorts? ranges count.toNat = (searchPorts ranges count).toOption := by
  by_cases room : count.toNat ≤ portRoom
  · rw [searchPorts_of_room ranges room, findPorts?, if_pos room]
    refine ⟨fun ports => ?_, fun ports found => ?_, ?_, nofun, rfl⟩
    · rw [Except.ok.injEq, and_iff_right room, map_toNat_eq_iff]
    · obtain rfl := Except.ok.inj found
      exact ⟨length_findPorts ranges count.toNat, fun _ => exists_mem_of_mem_findPorts⟩
    · exact iff_of_false nofun (Nat.not_lt.2 room)
  · rw [searchPorts_of_no_room ranges (Nat.not_le.1 room), findPorts?, if_neg room]
    refine ⟨fun ports => ?_, nofun, ?_, nofun, rfl⟩
    · exact iff_of_false nofun fun found => room found.1
    · exact iff_of_true rfl (Nat.not_le.1 room)

namespace Plain

/-- Ranges that end with the largest word, one of them with a single port, and one that goes
downwards. -/
def farPorts : List PortRange :=
  [⟨18446744073709551615, 18446744073709551615⟩, ⟨5, 4⟩,
    ⟨18446744073709551614, 18446744073709551615⟩]

/-- Nine ports are asked for where there are three, and more than there can ever be where there are
none. -/
theorem ports_found_iff_room_far :
    searchPorts farPorts 9 =
        .ok [18446744073709551615, 18446744073709551614, 18446744073709551615] ∧
      searchPorts [] 18446744073709551615 = .error .noRoom :=
  ⟨((ports_found_iff_room farPorts 9).1 _).2 ⟨by decide, by decide⟩,
    (ports_found_iff_room [] 18446744073709551615).2.2.1.2 (by decide)⟩

end Plain

end OfferDispatch
