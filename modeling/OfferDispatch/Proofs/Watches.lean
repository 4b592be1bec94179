import OfferDispatch.Pipeline.Desk

/-!
# Looking after watches

A watch gives up its worker when its time is over and the worker is still pending. This is the only
thing that a watch does to anything but itself: a desk that attends to watches none of which gives
up its worker is the same afterwards, but for the watches.
-/

namespace OfferDispatch

namespace Desk

variable {δ κ : Type} [ClusterDriver δ]

/-! ## Giving up -/

/-- The time of a watch is over, and if it takes a last look, its worker is still pending. -/
def Expires (d : Desk δ κ) (worker : TaskId) (w : Watch) : Prop :=
  w.endsAt ≤ d.clock ∧
    (w.looksAt ≤ d.clock ∧ w.looksAt ≤ w.endsAt → d.scheduler.readiness worker = .pending)

instance (d : Desk δ κ) (worker : TaskId) (w : Watch) : Decidable (d.Expires worker w) :=
  inferInstanceAs (Decidable (_ ∧ (_ → _)))

variable {d : Desk δ κ}

/-- A watch gives up its worker, or nobody but itself takes notice of it. -/
theorem attend_cases (d : Desk δ κ) (worker : TaskId) (w : Watch) :
    d.Expires worker w ∧ d.attend worker w = (d.run (.cancel worker)).1 ∨
      ¬ d.Expires worker w ∧ ∃ watches, d.attend worker w = { d with watches := watches } := by
  rw [attend, Expires]
  by_cases looks : w.looksAt ≤ d.clock ∧ w.looksAt ≤ w.endsAt
  · simp only [if_pos looks]
    cases shown : d.scheduler.readiness worker with
    | pending =>
        by_cases late : w.endsAt ≤ d.clock
        · exact .inl ⟨⟨late, fun _ => rfl⟩, if_pos late⟩
        · exact .inr ⟨fun ends => late ends.1, _, if_neg late⟩
    | ready | failed reason =>
        refine .inr ⟨fun ends => ?_, d.watches, rfl⟩
        cases ends.2 looks
  · simp only [if_neg looks]
    by_cases late : w.endsAt ≤ d.clock
    · exact .inl ⟨⟨late, fun there => absurd there looks⟩, if_pos late⟩
    · exact .inr ⟨fun ends => late ends.1, _, if_neg late⟩

theorem attend_of_not_expires {worker : TaskId} {w : Watch} (waits : ¬ d.Expires worker w) :
    ∃ watches, d.attend worker w = { d with watches := watches } := by
  obtain ⟨expires, -⟩ | ⟨-, same⟩ := d.attend_cases worker w
  · exact absurd expires waits
  · exact same

theorem foldl_attend {entries : List (TaskId × Watch)}
    (waits : ∀ entry ∈ entries, ¬ d.Expires entry.1 entry.2) :
    ∃ watches, entries.foldl (fun d entry => d.attend entry.1 entry.2) d =
      { d with watches := watches } := by
  induction entries generalizing d with
  | nil => exact ⟨d.watches, rfl⟩
  | cons entry rest ih =>
      obtain ⟨first, others⟩ := List.forall_mem_cons.1 waits
      obtain ⟨watches, same⟩ := attend_of_not_expires first
      rw [List.foldl_cons, same]
      exact ih (d := { d with watches := watches }) others

/-! ## One look after another -/

/-- Attends to all watches at a millisecond. -/
def look (d : Desk δ κ) (clock : Nat) : Desk δ κ := attendAll { d with clock := clock }

/-- No watch gives up its worker while it is attended to. -/
def Patient (d : Desk δ κ) : List Nat → Prop
  | [] => True
  | clock :: rest =>
    (∀ entry ∈ d.watches, ¬ Expires { d with clock := clock } entry.1 entry.2) ∧
      (d.look clock).Patient rest

instance decidablePatient (d : Desk δ κ) : (looks : List Nat) → Decidable (d.Patient looks)
  | [] => .isTrue trivial
  | clock :: rest =>
    have := decidablePatient (d.look clock) rest
    inferInstanceAs (Decidable (_ ∧ _))

theorem foldl_look {looks : List Nat} (patient : d.Patient looks) :
    ∃ clock watches, looks.foldl look d = { d with clock := clock, watches := watches } := by
  induction looks generalizing d with
  | nil => exact ⟨d.clock, d.watches, rfl⟩
  | cons clock rest ih =>
      obtain ⟨waits, later⟩ := patient
      obtain ⟨watches, same⟩ :=
        foldl_attend (d := { d with clock := clock, watches := [] }) waits
      have looked : d.look clock = { d with clock := clock, watches := watches } := same
      obtain ⟨last, left, all⟩ := ih later
      exact ⟨last, left, by rw [List.foldl_cons, all, looked]⟩

end Desk

end OfferDispatch
