import OfferDispatch.Online.Watch

/-!
# Deadlines

When looks take no time, a watch keeps its schedule: the look of index `i` is due `i` periods after
the first, and is made in the millisecond in which a timer set to that instant goes off. The first
look that does not find the worker pending gives the answer, if it is made no later than the watch
gives up.

Looks and deadline are compared as timers keep them, on whole milliseconds. A look that is due after
the deadline but in the same millisecond still counts; where the period and the limit are whole
milliseconds there is no such look.
-/

namespace OfferDispatch

/-! ## Timers -/

namespace Watch

/-- A timer has gone off by a millisecond exactly if it is set to no later instant. -/
theorem wake_le_iff {instant millis : Nat} :
    wake instant ≤ millis ↔ instant ≤ millis * 1000000 := by
  simp only [wake, Duration.millisUp]
  omega

@[simp] theorem wake_zero : wake 0 = 0 := rfl

theorem wake_mono {a b : Nat} (before : a ≤ b) : wake a ≤ wake b :=
  wake_le_iff.2 (Nat.le_trans before (wake_le_iff.1 (Nat.le_refl (wake b))))

/-- Timers set to whole milliseconds go off in the order of their instants. -/
theorem wake_ne_of_lt {a b : Nat} (wholeA : 1000000 ∣ a) (wholeB : 1000000 ∣ b) (before : a < b) :
    wake b ≠ wake a := by
  simp only [wake, Duration.millisUp]
  omega

/-! ## The schedule -/

/-- The millisecond in which the look of an index is made, if looks are made on time. -/
def looksOn (interval : Duration) (index : Nat) : Nat := wake (index * max interval.nanos 1000000)

theorem looksOn_mono (interval : Duration) {i j : Nat} (before : i ≤ j) :
    looksOn interval i ≤ looksOn interval j :=
  wake_mono (Nat.mul_le_mul_right _ before)

theorem index_le_looksOn (interval : Duration) (index : Nat) : index ≤ looksOn interval index := by
  have due : index * max interval.nanos 1000000 ≤ looksOn interval index * 1000000 :=
    wake_le_iff.1 (Nat.le_refl _)
  have apart : index * 1000000 ≤ index * max interval.nanos 1000000 :=
    Nat.mul_le_mul_left index (Nat.le_max_right ..)
  omega

/-- The looks that are made by a millisecond are the first so many. -/
theorem looksOn_le_iff {interval : Duration} {index millis : Nat} :
    looksOn interval index ≤ millis ↔
      index < millis * 1000000 / max interval.nanos 1000000 + 1 := by
  have positive : 0 < max interval.nanos 1000000 := by omega
  rw [looksOn, wake_le_iff, Nat.lt_succ_iff, Nat.le_div_iff_mul_le positive]

/-- The watch once a number of looks have been made on time. -/
def after (w : Watch) (looks : Nat) : Watch := { w with due := w.due + looks * w.period }

@[simp] theorem after_zero (w : Watch) : w.after 0 = w := by
  simp [after]

@[simp] theorem endsAt_after (w : Watch) (n : Nat) : (w.after n).endsAt = w.endsAt := rfl

theorem after_one_after (w : Watch) (n : Nat) : (w.after 1).after n = w.after (n + 1) := by
  simp only [after, Watch.mk.injEq, and_true, true_and]
  rw [Nat.add_mul]
  omega

theorem looksAt_le_looksAt_after (w : Watch) (n : Nat) : w.looksAt ≤ (w.after n).looksAt :=
  wake_mono (Nat.le_add_right _ _)

/-- A look on time is less than a millisecond late, so that the schedule is kept. -/
theorem looked_looksAt (w : Watch) : w.looked w.looksAt = w.after 1 := by
  have prompt : ¬ w.due + tolerance < w.looksAt * 1000000 := by
    simp only [looksAt, wake, Duration.millisUp, tolerance]
    omega
  simp only [looked, if_neg prompt, after, Nat.one_mul]

end Watch

/-! ## Looks that take no time -/

/-- The answer that a look gives, unless one has to wait on. -/
def Readiness.answer : Readiness → Option (Except WaitError Unit)
  | .ready => some (.ok ())
  | .failed reason => some (.error (.terminal reason))
  | .pending => none

/-- The looks that show what is given and take no time. -/
def instantLooks (shows : Nat → Readiness) (index : Nat) : Look := ⟨shows index, 0⟩

section Run

variable {shows : Nat → Readiness} {limit : Duration} {w : Watch} {fuel index now : Nat}
  {seen : List Nat}

/-- One look of a watch that is on time. -/
theorem waitFrom_onTime (onTime : now ≤ w.looksAt) :
    waitFrom (instantLooks shows) limit (fuel + 1) w index now seen =
      if w.looksAt ≤ w.endsAt then
        match (shows index).answer with
        | some result => ⟨result, seen ++ [w.looksAt], w.looksAt⟩
        | none =>
          waitFrom (instantLooks shows) limit fuel (w.after 1) (index + 1) w.looksAt
            (seen ++ [w.looksAt])
      else ⟨.error (.timeout limit), seen, w.endsAt⟩ := by
  rw [waitFrom, Nat.max_eq_right onTime]
  split
  · next inTime =>
    have found : (instantLooks shows index).shows = shows index := rfl
    have ends : w.looksAt + (instantLooks shows index).takes = w.looksAt := Nat.add_zero _
    simp only [found, ends, if_pos inTime, Watch.looked_looksAt]
    cases shows index <;> simp only [Readiness.answer]
  · rfl

/-- While the worker is pending and time is left, the watch makes one look after another. -/
theorem waitFrom_pending (onTime : now ≤ w.looksAt) (n : Nat)
    (pending : ∀ i < n, shows (index + i) = .pending)
    (inTime : ∀ i < n, (w.after i).looksAt ≤ w.endsAt) :
    ∃ later, later ≤ (w.after n).looksAt ∧
      waitFrom (instantLooks shows) limit (n + fuel) w index now seen =
        waitFrom (instantLooks shows) limit fuel (w.after n) (index + n) later
          (seen ++ (List.range n).map fun i => (w.after i).looksAt) := by
  induction n generalizing w index now seen with
  | zero => exact ⟨now, by simpa using onTime, by simp⟩
  | succ n ih =>
      have shown : shows index = .pending := pending 0 (Nat.succ_pos n)
      have reached : w.looksAt ≤ w.endsAt := by simpa using inTime 0 (Nat.succ_pos n)
      have stillPending : ∀ i < n, shows (index + 1 + i) = .pending := fun i small => by
        rw [Nat.add_right_comm, Nat.add_assoc]
        exact pending (i + 1) (by omega)
      have stillInTime : ∀ i < n, ((w.after 1).after i).looksAt ≤ (w.after 1).endsAt :=
        fun i small => by
          rw [Watch.after_one_after]
          exact inTime (i + 1) (by omega)
      obtain ⟨later, prompt, rest⟩ := @ih (w.after 1) (index + 1) w.looksAt (seen ++ [w.looksAt])
        (w.looksAt_le_looksAt_after 1) stillPending stillInTime
      refine ⟨later, by rwa [Watch.after_one_after] at prompt, ?_⟩
      rw [Nat.add_right_comm, waitFrom_onTime onTime, if_pos reached, shown]
      simp only [Readiness.answer, rest, Watch.after_one_after, List.range_succ_eq_map,
        List.map_cons, List.map_map, Watch.after_zero, List.append_assoc, List.singleton_append]
      rw [Nat.add_right_comm, Nat.add_assoc]
      rfl

end Run

/-! ## The answer -/

/-- The look of an index is the first that does not find the worker pending. -/
def DecidedAt (shows : Nat → Readiness) (index : Nat) (result : Except WaitError Unit) : Prop :=
  (∀ i < index, shows i = .pending) ∧ (shows index).answer = some result

theorem pending_of_forall_decidedAt {shows : Nat → Readiness} {n : Nat}
    (late : ∀ index result, DecidedAt shows index result → n ≤ index) :
    ∀ i < n, shows i = .pending := by
  intro i
  induction i using Nat.strongRecOn with
  | ind i earlier =>
      intro small
      cases shown : (shows i).answer with
      | some result =>
          have first : DecidedAt shows i result :=
            ⟨fun j before => earlier j before (by omega), shown⟩
          exact absurd (late i result first) (by omega)
      | none =>
          cases at_i : shows i with
          | pending => rfl
          | ready | failed reason => simp [at_i, Readiness.answer] at shown

section Answer

variable {shows : Nat → Readiness} {interval limit : Duration}

theorem looksAt_start_after (i : Nat) :
    ((Watch.start 0 interval limit).after i).looksAt = Watch.looksOn interval i := by
  simp [Watch.start, Watch.after, Watch.looksAt, Watch.looksOn]

theorem endsAt_start : (Watch.start 0 interval limit).endsAt = Watch.wake limit.nanos := by
  simp [Watch.start, Watch.endsAt]

/-- A new watch, once it has made a number of looks that find the worker pending. -/
theorem waitOnline_pending (n : Nat) (pending : ∀ i < n, shows i = .pending)
    (inTime : ∀ i < n, Watch.looksOn interval i ≤ Watch.wake limit.nanos) :
    ∃ fuel now, now ≤ ((Watch.start 0 interval limit).after n).looksAt ∧
      waitOnline (instantLooks shows) interval limit =
        waitFrom (instantLooks shows) limit (fuel + 1) ((Watch.start 0 interval limit).after n) n
          now ((List.range n).map (Watch.looksOn interval)) := by
  -- The look before is not made before the millisecond of its index.
  have enough : n ≤ Watch.wake limit.nanos + 1 := by
    obtain _ | last := n
    · exact Nat.zero_le _
    · have slow := Watch.index_le_looksOn interval last
      exact Nat.succ_le_succ (Nat.le_trans slow (inTime last (Nat.lt_succ_self last)))
  obtain ⟨fuel, spare⟩ : ∃ fuel, Watch.wake limit.nanos + 2 = n + (fuel + 1) :=
    ⟨Watch.wake limit.nanos + 1 - n, by omega⟩
  have reached : ∀ i < n, ((Watch.start 0 interval limit).after i).looksAt ≤
      (Watch.start 0 interval limit).endsAt := fun i small => by
    rw [looksAt_start_after, endsAt_start]
    exact inTime i small
  obtain ⟨now, prompt, run⟩ := @waitFrom_pending shows limit (.start 0 interval limit) (fuel + 1)
    0 0 [] (Nat.zero_le _) n (by simpa using pending) reached
  refine ⟨fuel, now, prompt, ?_⟩
  simpa only [waitOnline, endsAt_start, spare, Nat.zero_add, List.nil_append, looksAt_start_after]
    using run

/-- A look in time that is the first not to find the worker pending gives the answer. -/
theorem waitOnline_of_decidedAt {k : Nat} {result : Except WaitError Unit}
    (decided : DecidedAt shows k result)
    (inTime : Watch.looksOn interval k ≤ Watch.wake limit.nanos) :
    waitOnline (instantLooks shows) interval limit =
      ⟨result, (List.range (k + 1)).map (Watch.looksOn interval), Watch.looksOn interval k⟩ := by
  obtain ⟨fuel, now, onTime, run⟩ := waitOnline_pending k decided.1 fun i before =>
    Nat.le_trans (Watch.looksOn_mono interval (Nat.le_of_lt before)) inTime
  rw [run, waitFrom_onTime onTime, looksAt_start_after, Watch.endsAt_after, endsAt_start,
    if_pos inTime, decided.2, List.range_succ, List.map_append]
  rfl

/-- If no look in time gives an answer, the watch gives up in the millisecond of its deadline. It
has then made every look that comes no later. -/
theorem waitOnline_of_pending
    (late : ∀ k result, DecidedAt shows k result →
      Watch.wake limit.nanos < Watch.looksOn interval k) :
    ∃ n, (∀ i, i < n ↔ Watch.looksOn interval i ≤ Watch.wake limit.nanos) ∧
      waitOnline (instantLooks shows) interval limit =
        ⟨.error (.timeout limit), (List.range n).map (Watch.looksOn interval),
          Watch.wake limit.nanos⟩ := by
  obtain ⟨n, made⟩ : ∃ n, ∀ i, i < n ↔ Watch.looksOn interval i ≤ Watch.wake limit.nanos :=
    ⟨_, fun _ => Watch.looksOn_le_iff.symm⟩
  have unmade : ∀ k result, DecidedAt shows k result → n ≤ k := fun k result decided =>
    Nat.le_of_not_lt fun small => Nat.not_le_of_lt (late k result decided) ((made k).1 small)
  have pending := pending_of_forall_decidedAt unmade
  obtain ⟨fuel, now, onTime, run⟩ := waitOnline_pending n pending fun i small => (made i).1 small
  have tooLate : ¬ Watch.looksOn interval n ≤ Watch.wake limit.nanos := fun inTime =>
    Nat.lt_irrefl n ((made n).2 inTime)
  refine ⟨n, made, ?_⟩
  rw [run, waitFrom_onTime onTime, looksAt_start_after, Watch.endsAt_after, endsAt_start,
    if_neg tooLate]

end Answer

/-- Looks that take no time are made at once and then once in each period, which is at least a
millisecond. Let a look be the first not to find the worker pending. If it is the first of all, or
is due before the deadline, or in the millisecond in which the deadline is kept, it gives the answer
and is the last look. If there is no such look, or it is due after the deadline and in a later
millisecond, time runs out, after every look has been made that is due before the deadline.

Where the period and the limit are whole milliseconds, a look that is due after the deadline is
always in a later millisecond. -/
theorem decided_in_time_or_timed_out (shows : Nat → Readiness) (interval limit : Duration) :
    let period := max interval.nanos 1000000
    let waited := waitOnline (instantLooks shows) interval limit
    (∀ k result, DecidedAt shows k result →
      (k = 0 ∨ k * period < limit.nanos ∨ Watch.wake (k * period) = Watch.wake limit.nanos) →
        waited = ⟨result, (List.range (k + 1)).map fun i => Watch.wake (i * period),
          Watch.wake (k * period)⟩) ∧
    ((∀ k result, DecidedAt shows k result →
      limit.nanos < k * period ∧ Watch.wake (k * period) ≠ Watch.wake limit.nanos) →
        ∃ n, (∀ i, i * period < limit.nanos → i < n) ∧
          (∀ i < n, Watch.wake (i * period) ≤ Watch.wake limit.nanos) ∧
          waited = ⟨.error (.timeout limit), (List.range n).map fun i => Watch.wake (i * period),
            Watch.wake limit.nanos⟩) ∧
    (1000000 ∣ period → 1000000 ∣ limit.nanos →
      ∀ k, limit.nanos < k * period → Watch.wake (k * period) ≠ Watch.wake limit.nanos) := by
  intro period waited
  refine ⟨fun k result decided reached => ?_, fun late => ?_, fun wholePeriod wholeLimit k after =>
    Watch.wake_ne_of_lt wholeLimit (Nat.dvd_mul_left_of_dvd wholePeriod k) after⟩
  · refine waitOnline_of_decidedAt decided ?_
    obtain rfl | before | together := reached
    · simp [Watch.looksOn]
    · exact Watch.wake_mono (Nat.le_of_lt before)
    · exact Nat.le_of_eq together
  · have tooLate : ∀ k result, DecidedAt shows k result →
        Watch.wake limit.nanos < Watch.looksOn interval k := fun k result decided => by
      obtain ⟨after, apart⟩ := late k result decided
      exact Nat.lt_of_le_of_ne (Watch.wake_mono (Nat.le_of_lt after)) (Ne.symm apart)
    obtain ⟨n, made, timedOut⟩ := waitOnline_of_pending tooLate
    exact ⟨n, fun i before => (made i).2 (Watch.wake_mono (Nat.le_of_lt before)),
      fun i small => (made i).1 small, timedOut⟩

/-- A look due three tenths of a millisecond after the deadline, but in the same millisecond, finds
the worker ready. -/
theorem look_after_deadline_decides :
    let shows : Nat → Readiness := fun i => if i = 0 then .pending else .ready
    let interval : Duration := ⟨1500000⟩
    let limit : Duration := ⟨1200000⟩
    DecidedAt shows 1 (.ok ()) ∧ limit.nanos < 1 * max interval.nanos 1000000 ∧
      waitOnline (instantLooks shows) interval limit = ⟨.ok (), [0, 2], 2⟩ ∧
      (waitOnline (instantLooks shows) interval limit).result ≠ .error (.timeout limit) := by
  intro shows interval limit
  have decided : DecidedAt shows 1 (.ok ()) := ⟨by decide, rfl⟩
  have answered : waitOnline (instantLooks shows) interval limit = ⟨.ok (), [0, 2], 2⟩ := by
    rw [waitOnline_of_decidedAt decided (by decide), Waited.mk.injEq]
    exact ⟨rfl, by decide, by decide⟩
  refine ⟨decided, by decide, answered, ?_⟩
  rw [answered]
  simp

end OfferDispatch
