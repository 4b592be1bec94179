import OfferDispatch.Proofs.Calendar

/-!
# The text of instants

Instants can be read with some freedom, and they are written in one way. What is written is read
back as the same instant, in any year, with any fraction of a second, and also on a leap second.
Whatever is read is an instant that can be written so.
-/

namespace OfferDispatch

/-! ## Digits -/

namespace Text

theorem digit?_of_isDigit {c : Char} (h : c.isDigit = true) :
    digit? c = some (c.toNat - '0'.toNat) := by
  simp only [Char.isDigit, Bool.and_eq_true, decide_eq_true_eq] at h
  rw [digit?, if_pos ⟨h.1, h.2⟩]

theorem lt_of_digit? {c : Char} {d : Nat} (h : digit? c = some d) : d < 10 := by
  rw [digit?] at h
  split at h
  · next digit =>
      cases h
      have last : c.toNat ≤ 57 := digit.2
      have zero : '0'.toNat = 48 := rfl
      omega
  · cases h

theorem isBlank_of_isDigit {c : Char} (h : c.isDigit = true) : isBlank c = false := by
  simp only [Char.isDigit, Bool.and_eq_true, decide_eq_true_eq, UInt32.le_iff_toNat_le] at h
  have first : 48 ≤ c.toNat := h.1
  have last : c.toNat ≤ 57 := h.2
  have notBlank : ∀ r ∈ blankRanges, ¬ (r.1 ≤ c.toNat ∧ c.toNat ≤ r.2) := by
    simp only [blankRanges, List.forall_mem_cons, List.not_mem_nil, false_implies, implies_true,
      and_true]
    omega
  simpa [isBlank, within] using notBlank

/-- A numeral is made of digits. -/
theorem isDigit_of_mem_padded {width n : Nat} {c : Char} (h : c ∈ padded width n) :
    c.isDigit = true := by
  rw [padded, List.mem_append] at h
  obtain zero | digit := h
  · rw [List.eq_of_mem_replicate zero]
    rfl
  · exact Nat.isDigit_of_mem_toDigits (by decide) (by decide) digit

/-- The value of a numeral is the number it was written for. -/
theorem ofDigitChars_padded (width n : Nat) : Nat.ofDigitChars 10 (padded width n) 0 = n := by
  rw [padded, Nat.ofDigitChars_append, Nat.ofDigitChars_replicate_zero, Nat.mul_zero, decimal,
    Nat.ofDigitChars_ten_toDigits]

theorem padded_ne_nil (width n : Nat) : padded width n ≠ [] :=
  List.append_ne_nil_of_right_ne_nil _ Nat.toDigits_ne_nil

/-- A number that fits into so many digits is written with just as many. -/
theorem length_padded {width n : Nat} (positive : 0 < width) (fits : n < 10 ^ width) :
    (padded width n).length = width := by
  have short : (decimal n).length ≤ width :=
    (Nat.length_toDigits_le_iff (by decide) positive).2 fits
  rw [padded, List.length_append, List.length_replicate]
  omega

/-- No blank stands in front of a numeral. -/
theorem trimStart_padded_append (width n : Nat) (rest : List Char) :
    trimStart (padded width n ++ rest) = padded width n ++ rest := by
  obtain ⟨c, cs, numeral⟩ := List.exists_cons_of_ne_nil (padded_ne_nil width n)
  have digit : c.isDigit = true :=
    isDigit_of_mem_padded (show c ∈ padded width n from numeral ▸ List.mem_cons_self)
  rw [numeral, List.cons_append, trimStart_cons, isBlank_of_isDigit digit, if_neg Bool.false_ne_true]

/-- A part that can be read is passed on. -/
theorem bind_of_eq_some {α β : Type} {o : Option α} {a : α} (h : o = some a) (f : α → Option β) :
    (o >>= f) = f a := by
  rw [h]
  rfl

end Text

namespace Instant

open Text

/-- Does the text not go on with a digit? -/
def EndsNumber (cs : List Char) : Prop := ∀ c ∈ cs.head?, digit? c = none

/-- Digits are read up to the last one that there is room for, or that there is. -/
theorem takeDigits_append {width : Nat} {ds rest : List Char} (n count : Nat)
    (digits : ∀ c ∈ ds, c.isDigit = true) (fits : ds.length ≤ width)
    (ends : ds.length = width ∨ EndsNumber rest) :
    takeDigits width n count (ds ++ rest) =
      (Nat.ofDigitChars 10 ds n, count + ds.length, rest) := by
  induction ds generalizing width n count with
  | nil =>
      cases width with
      | zero => simp [takeDigits]
      | succ width =>
          have stops : EndsNumber rest := ends.resolve_left (Nat.succ_ne_zero _).symm
          cases rest with
          | nil => simp [takeDigits]
          | cons c rest =>
              have other : digit? c = none := stops c rfl
              simp [takeDigits, other]
  | cons c ds ih =>
      obtain ⟨first, others⟩ := List.forall_mem_cons.1 digits
      cases width with
      | zero => exact absurd fits (Nat.not_succ_le_zero _)
      | succ width =>
          have shorter : ds.length ≤ width := Nat.le_of_succ_le_succ fits
          have further := ih (n * 10 + (c.toNat - '0'.toNat)) (count + 1) others shorter
            (ends.imp_left Nat.succ.inj)
          rw [List.cons_append, takeDigits, digit?_of_isDigit first]
          simp only [further, Nat.ofDigitChars_cons, List.length_cons, Nat.mul_comm 10 n]
          rw [Nat.add_assoc, Nat.add_comm 1]

/-- A numeral of just so many digits is read as its number, whatever follows. -/
theorem number?_padded {width n : Nat} (positive : 0 < width) (fits : n < 10 ^ width)
    (rest : List Char) : number? width (padded width n ++ rest) = some (n, rest) := by
  have length := length_padded positive fits
  have trimmed : trimStart (padded width n ++ rest) = padded width n ++ rest :=
    trimStart_padded_append ..
  have read : takeDigits width 0 0 (padded width n ++ rest) = _ :=
    takeDigits_append 0 0 (fun _ => isDigit_of_mem_padded) length.le (.inl length)
  obtain ⟨more, same⟩ : ∃ more, width = more + 1 := Nat.exists_eq_succ_of_ne_zero positive.ne'
  rw [number?, trimmed, read, ofDigitChars_padded, length, Nat.zero_add]
  simp only [same]

/-- A mark is read where it stands. -/
theorem mark?_cons {c : Char} (visible : isBlank c = false) (rest : List Char) :
    mark? c (c :: rest) = some rest := by
  rw [mark?, trimStart_cons, if_neg (by simp [visible])]
  exact if_pos rfl

/-- A mark that is not a digit ends a number. -/
theorem endsNumber_cons {c : Char} (other : digit? c = none) (rest : List Char) :
    EndsNumber (c :: rest) := fun d h => by
  cases Option.mem_some_iff.1 h
  exact other

/-! ## Years -/

/-- Years of four digits end by themselves, and all others where no digit follows. -/
theorem year?_yearText (year : Int) {rest : List Char} (ends : EndsNumber rest) :
    year? (yearText year ++ rest) = some (year, rest) := by
  have signed (n : Nat) : takeDigits (padded 4 n ++ rest).length 0 0 (padded 4 n ++ rest) =
      (n, (padded 4 n).length, rest) := by
    rw [takeDigits_append 0 0 (fun _ => isDigit_of_mem_padded) (by simp) (.inr ends),
      ofDigitChars_padded, Nat.zero_add]
  obtain ⟨places, count⟩ : ∃ places, (padded 4 year.natAbs).length = places + 1 :=
    Nat.exists_eq_succ_of_ne_zero (by simp [padded_ne_nil])
  rw [yearText]
  split
  · next range =>
      have fits : year.toNat < 10 ^ 4 := by omega
      obtain ⟨c, cs, numeral⟩ := List.exists_cons_of_ne_nil (padded_ne_nil 4 year.toNat)
      have digit : c.isDigit = true :=
        isDigit_of_mem_padded (show c ∈ padded 4 year.toNat from numeral ▸ List.mem_cons_self)
      have value : (year.toNat : Int) = year := Int.toNat_of_nonneg range.1
      rw [year?, trimStart_padded_append]
      split
      · next minus => simp_all
      · next plus => simp_all
      · rw [number?_padded (by decide) fits, Option.map_some, value]
  split
  · next negative =>
      have value : -(year.natAbs : Int) = year := by omega
      rw [year?, List.cons_append, trimStart_cons, if_neg (by decide)]
      simp only [signed, count, value]
  · next positive =>
      have value : (year.natAbs : Int) = year := by omega
      rw [year?, List.cons_append, trimStart_cons, if_neg (by decide)]
      simp only [signed, count, value]

/-! ## Fractions -/

/-- Three, six or nine digits are read as nanoseconds. -/
theorem fraction?_padded {width n : Nat} (positive : 0 < width) (short : width ≤ 9)
    (fits : n < 10 ^ width) {rest : List Char} (ends : EndsNumber rest) :
    fraction? ('.' :: padded width n ++ rest) = some (n * 10 ^ (9 - width), rest) := by
  have length := length_padded positive fits
  have read : takeDigits 9 0 0 (padded width n ++ rest) = _ :=
    takeDigits_append 0 0 (fun _ => isDigit_of_mem_padded) (length.trans_le short) (.inr ends)
  obtain ⟨more, same⟩ : ∃ more, width = more + 1 := Nat.exists_eq_succ_of_ne_zero positive.ne'
  have nothing : rest.dropWhile isDigit = rest := by
    cases rest with
    | nil => rfl
    | cons c rest =>
        have other : isDigit c = false := by simp [isDigit, ends c rfl]
        rw [List.dropWhile_cons_of_neg (by simp [other])]
  rw [List.cons_append, fraction?, read, ofDigitChars_padded, length, Nat.zero_add]
  simp only [same, nothing]

/-- The fraction that is written is the one that is read. -/
theorem fraction?_fractionText {nanos : Nat} (fits : nanos < 1000000000) {rest : List Char}
    (ends : EndsNumber rest) (noPoint : rest.head? ≠ some '.') :
    fraction? (fractionText nanos ++ rest) = some (nanos, rest) := by
  rw [fractionText]
  split
  · next whole =>
      cases rest with
      | nil => simp [fraction?, whole]
      | cons c rest => simp_all [fraction?]
  split
  · next millis =>
      have value : nanos / 1000000 * 1000000 = nanos := by omega
      rw [fraction?_padded (by decide) (by decide) (by omega) ends]
      exact congrArg (fun n => some (n, rest)) value
  split
  · next micros =>
      have value : nanos / 1000 * 1000 = nanos := by omega
      rw [fraction?_padded (by decide) (by decide) (by omega) ends]
      exact congrArg (fun n => some (n, rest)) value
  · rw [fraction?_padded (by decide) (by decide) (by omega) ends, Nat.mul_one]

/-! ## Instants -/

/-- An instant that there can be: its day is in range, and its second has a billion nanoseconds, or
two billion if a leap second belongs to it. -/
structure IsProper (t : Instant) : Prop where
  day : dayRange.1 ≤ t.seconds / 86400 ∧ t.seconds / 86400 ≤ dayRange.2
  nanos : t.nanos < 1000000000 ∨ t.nanos < 2000000000 ∧ t.seconds % 60 = 59

/-- The day and the time of day of an instant are those of this instant. -/
theorem IsProper.ofParts? {t : Instant} (h : t.IsProper) :
    Instant.ofParts? (Day.ofNumber (t.seconds / 86400)) ((t.seconds % 86400).toNat / 3600)
      ((t.seconds % 86400).toNat / 60 % 60)
      ((t.seconds % 86400).toNat % 60 + if 1000000000 ≤ t.nanos then 1 else 0)
      (if 1000000000 ≤ t.nanos then t.nanos - 1000000000 else t.nanos) 0 = some t := by
  obtain ⟨⟨first, last⟩, nanos⟩ := h
  obtain ⟨month, day⟩ := Day.isProper_ofNumber (t.seconds / 86400)
  have year := Day.year_ofNumber_mem first last
  have number := Day.number_ofNumber (t.seconds / 86400)
  rw [Instant.ofParts?]
  by_cases leap : 1000000000 ≤ t.nanos
  · have minuteEnds : (t.seconds % 86400).toNat % 60 = 59 := by omega
    have seconds : t.seconds / 86400 * 86400 + ((t.seconds % 86400).toNat / 3600 : Nat) * 3600 +
        ((t.seconds % 86400).toNat / 60 % 60 : Nat) * 60 + (59 : Nat) - 0 = t.seconds := by omega
    have restored : t.nanos - 1000000000 + 1000000000 = t.nanos := by omega
    simp only [if_pos leap, minuteEnds, number, if_true, seconds, restored]
    rw [if_pos ⟨⟨year.1, year.2, month.1, month.2, day.1, day.2⟩, by omega⟩,
      if_pos ⟨first, last⟩]
  · have ordinary : (t.seconds % 86400).toNat % 60 ≠ 60 := by omega
    have seconds : t.seconds / 86400 * 86400 + ((t.seconds % 86400).toNat / 3600 : Nat) * 3600 +
        ((t.seconds % 86400).toNat / 60 % 60 : Nat) * 60 + ((t.seconds % 86400).toNat % 60 : Nat) -
          0 = t.seconds := by omega
    simp only [if_neg leap, Nat.add_zero, if_neg ordinary, number, seconds]
    rw [if_pos ⟨⟨year.1, year.2, month.1, month.2, day.1, day.2⟩, by omega⟩,
      if_pos ⟨first, last⟩]

/-- A text in UTC is read part by part. -/
theorem read?_eq {s : String} {year : Int} {month day hour minute second nanos : Nat}
    {atMonth atDay atHour atMinute atSecond atFraction : List Char}
    (readYear : year? s.toList = some (year, '-' :: atMonth))
    (readMonth : number? 2 atMonth = some (month, '-' :: atDay))
    (readDay : number? 2 atDay = some (day, 'T' :: atHour))
    (readHour : number? 2 atHour = some (hour, ':' :: atMinute))
    (readMinute : number? 2 atMinute = some (minute, ':' :: atSecond))
    (readSecond : number? 2 atSecond = some (second, atFraction))
    (readFraction : fraction? atFraction = some (nanos, ['Z'])) :
    read? s = ofParts? ⟨year, month, day⟩ hour minute second nanos 0 := by
  have dash (rest : List Char) : mark? '-' ('-' :: rest) = some rest := mark?_cons (by decide) rest
  have colon (rest : List Char) : mark? ':' (':' :: rest) = some rest := mark?_cons (by decide) rest
  have zone : offset? (trimStart ['Z']) = some (0, []) := by decide
  calc read? s
    _ = _ := bind_of_eq_some readYear _
    _ = _ := bind_of_eq_some (dash atMonth) _
    _ = _ := bind_of_eq_some readMonth _
    _ = _ := bind_of_eq_some (dash atDay) _
    _ = _ := bind_of_eq_some readDay _
    _ = _ := bind_of_eq_some readHour _
    _ = _ := bind_of_eq_some (colon atMinute) _
    _ = _ := bind_of_eq_some readMinute _
    _ = _ := bind_of_eq_some (colon atSecond) _
    _ = _ := bind_of_eq_some readSecond _
    _ = _ := bind_of_eq_some readFraction _
    _ = _ := bind_of_eq_some zone _

theorem Day.IsProper.day_le {d : Day} (h : d.IsProper) : d.day ≤ 31 := by
  have longest : daysInMonth d.year d.month ≤ 31 := by
    simp only [daysInMonth]
    split
    · split <;> decide
    all_goals decide
  exact h.day.2.trans longest

/-- What is written is read back. -/
theorem IsProper.read?_text {t : Instant} (h : t.IsProper) : read? t.text = some t := by
  have proper := Day.isProper_ofNumber (t.seconds / 86400)
  have month := proper.month
  have day := proper.day_le
  have nanos : (if 1000000000 ≤ t.nanos then t.nanos - 1000000000 else t.nanos) < 1000000000 := by
    obtain ordinary | ⟨leap, -⟩ := h.nanos <;> split <;> omega
  have second : (t.seconds % 86400).toNat % 60 + (if 1000000000 ≤ t.nanos then 1 else 0) < 100 := by
    split <;> omega
  have ends : EndsNumber ['Z'] := endsNumber_cons (by decide) []
  have number {n : Nat} (fits : n < 100) (rest : List Char) :
      number? 2 (padded 2 n ++ rest) = some (n, rest) := number?_padded (by decide) fits rest
  have parts : t.text.toList = _ := String.toList_ofList
  simp only [List.append_assoc, List.cons_append, List.nil_append] at parts
  refine (read?_eq (parts ▸ year?_yearText _ (endsNumber_cons (by decide) _))
    (number (by omega) _) (number (by omega) _) (number (by omega) _) (number (by omega) _)
    (number second _) (fraction?_fractionText nanos ends (by decide))).trans h.ofParts?

/-- Digits make a number below the power of ten for their count. -/
theorem takeDigits_lt {width n count m count' : Nat} {cs rest : List Char}
    (read : takeDigits width n count cs = (m, count', rest)) :
    count ≤ count' ∧ count' ≤ count + width ∧ m < (n + 1) * 10 ^ (count' - count) := by
  induction width generalizing n count cs with
  | zero =>
      cases read
      simp
  | succ width ih =>
      cases cs with
      | nil =>
          cases read
          simp
      | cons c cs =>
          rw [takeDigits] at read
          split at read
          · next d digit =>
              obtain ⟨more, room, bound⟩ := ih read
              have small := lt_of_digit? digit
              have exponent : count' - count = count' - (count + 1) + 1 := by omega
              refine ⟨by omega, by omega, bound.trans_le ?_⟩
              rw [exponent, Nat.pow_succ', ← Nat.mul_assoc]
              exact Nat.mul_le_mul_right _ (by omega)
          · cases read
            simp

/-- What is read as a fraction is less than a second. -/
theorem fraction?_lt {cs rest : List Char} {nanos : Nat}
    (read : fraction? cs = some (nanos, rest)) : nanos < 1000000000 := by
  simp only [fraction?] at read
  split at read
  · split at read
    · cases read
    · next n count after more digits =>
        cases read
        obtain ⟨-, room, bound⟩ := takeDigits_lt digits
        calc n * 10 ^ (9 - count) < (0 + 1) * 10 ^ (count - 0) * 10 ^ (9 - count) :=
              Nat.mul_lt_mul_of_pos_right bound (by positivity)
          _ = 10 ^ (count + (9 - count)) := by rw [Nat.pow_add, Nat.zero_add, Nat.one_mul]; rfl
          _ = 1000000000 := by rw [Nat.add_sub_cancel' (by omega)]
  · cases read
    decide

/-- Offsets are whole minutes. -/
theorem offsetAmount?_mod {cs rest : List Char} {offset : Int}
    (read : offsetAmount? cs = some (offset, rest)) : offset % 60 = 0 := by
  simp only [offsetAmount?] at read
  split at read
  · split at read
    · split at read
      · cases read
        omega
      · cases read
    · cases read
  · cases read

theorem offset?_mod {cs rest : List Char} {offset : Int}
    (read : offset? cs = some (offset, rest)) : offset % 60 = 0 := by
  simp only [offset?] at read
  split at read
  · cases read
  split at read
  · cases read
    rfl
  split at read
  · cases read
    rfl
  split at read
  · exact offsetAmount?_mod read
  split at read
  · obtain ⟨amount, readAmount, same⟩ := Option.map_eq_some_iff.1 read
    cases same
    have minutes := offsetAmount?_mod readAmount
    omega
  · cases read

/-- The day of the result is checked, and only the last second of a minute can be a leap second. -/
theorem isProper_of_ofParts? {day : Day} {hour minute second nanos : Nat} {offset : Int}
    {t : Instant} (fits : nanos < 1000000000) (minutes : offset % 60 = 0)
    (read : ofParts? day hour minute second nanos offset = some t) : t.IsProper := by
  simp only [ofParts?, Option.ite_none_right_eq_some, Option.some.injEq] at read
  obtain ⟨-, inRange, rfl⟩ := read
  refine ⟨inRange, ?_⟩
  by_cases leap : second = 60
  · simp only [if_pos leap]
    omega
  · simp only [if_neg leap]
    exact .inl fits

/-- Whatever is read is an instant that there can be. -/
theorem isProper_of_read? {s : String} {t : Instant} (read : read? s = some t) : t.IsProper := by
  rw [read?] at read
  obtain ⟨⟨year, cs⟩, -, read⟩ := Option.bind_eq_some_iff.1 read
  obtain ⟨cs, -, read⟩ := Option.bind_eq_some_iff.1 read
  obtain ⟨⟨month, cs⟩, -, read⟩ := Option.bind_eq_some_iff.1 read
  obtain ⟨cs, -, read⟩ := Option.bind_eq_some_iff.1 read
  obtain ⟨⟨day, cs⟩, -, read⟩ := Option.bind_eq_some_iff.1 read
  -- What separates the time of day is checked before anything of it is read.
  simp only at read
  split at read
  case h_2 => cases read
  split at read
  case isFalse => cases read
  obtain ⟨cs, -, read⟩ := Option.bind_eq_some_iff.1 read
  obtain ⟨⟨hour, cs⟩, -, read⟩ := Option.bind_eq_some_iff.1 read
  obtain ⟨cs, -, read⟩ := Option.bind_eq_some_iff.1 read
  obtain ⟨⟨minute, cs⟩, -, read⟩ := Option.bind_eq_some_iff.1 read
  obtain ⟨cs, -, read⟩ := Option.bind_eq_some_iff.1 read
  obtain ⟨⟨second, cs⟩, -, read⟩ := Option.bind_eq_some_iff.1 read
  obtain ⟨⟨nanos, cs⟩, fraction, read⟩ := Option.bind_eq_some_iff.1 read
  obtain ⟨⟨offset, cs⟩, zone, read⟩ := Option.bind_eq_some_iff.1 read
  simp only [Option.ite_none_right_eq_some] at read
  exact isProper_of_ofParts? (fraction?_lt fraction) (offset?_mod zone) read.2

end Instant

end OfferDispatch
