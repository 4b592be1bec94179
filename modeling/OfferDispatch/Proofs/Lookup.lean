import OfferDispatch.Proofs.Forgetting

/-!
# What is found under a name

All that a tracker is asked about a task is looked up by name: the live task, and the record of how
a task has ended. So what happens to a tracker is said by what is found under each name afterwards.
Whatever is written is found under its own name and changes nothing under any other. Of live tasks
that are given up, the last one of a name makes the record; among the tasks that a scheduler tracks,
no other is of that name.
-/

namespace OfferDispatch

variable {κ : Type}

namespace Tracker

variable {t : Tracker κ} {task : TaskId}

theorem isSome_find? (t : Tracker κ) (task : TaskId) :
    (t.find? task).isSome = t.contains task :=
  List.isSome_find?

theorem isSome_state? (t : Tracker κ) (task : TaskId) :
    (t.state? task).isSome = t.isKnown task := by
  rw [state?, isKnown, ← isSome_find?]
  cases t.find? task <;> simp

theorem id_of_find? {l : LiveTask κ} (h : t.find? task = some l) : l.id = task :=
  (exists_of_find? h).1

/-! ## Live tasks -/

theorem find?_insert (t : Tracker κ) (l : LiveTask κ) (task : TaskId) :
    (t.insert l).find? task = if l.id = task then some l else t.find? task := by
  rw [find?, insert, List.find?_append, List.find?_filter]
  by_cases same : l.id = task
  · subst same
    have other : t.live.find? (fun x => decide ((x.id != l.id) = true ∧ (x.id == l.id) = true)) =
        none := by
      rw [List.find?_eq_none]
      intro x _
      simp
    rw [other]
    simp
  · have kept : (fun x : LiveTask κ => decide ((x.id != l.id) = true ∧ (x.id == task) = true)) =
        fun x => x.id == task := by
      funext x
      by_cases found : x.id = task
      · simp [found, Ne.symm same]
      · simp [found]
    rw [kept, if_neg same, find?]
    simp [same]

theorem find?_retire (t : Tracker κ) (ended : TaskId) (ending : Ending) (task : TaskId) :
    (t.retire ended ending).find? task = if ended = task then none else t.find? task := by
  rw [find?, retire, List.find?_filter]
  by_cases same : ended = task
  · rw [if_pos same, List.find?_eq_none]
    intro x _
    simp [same]
  · have kept : (fun x : LiveTask κ => decide ((x.id != ended) = true ∧ (x.id == task) = true)) =
        fun x => x.id == task := by
      funext x
      by_cases found : x.id = task
      · simp [found, Ne.symm same]
      · simp [found]
    rw [kept, if_neg same, find?]

theorem find?_replace {l : LiveTask κ} (live : t.contains l.id = true) (task : TaskId) :
    (t.replace l).find? task = if l.id = task then some l else t.find? task := by
  have kept : ((fun x : LiveTask κ => x.id == task) ∘ fun x => if x.id == l.id then l else x) =
      fun x => x.id == task := by
    funext x
    by_cases same : x.id = l.id <;> simp [same]
  rw [find?, replace, List.find?_map, kept, ← find?]
  rw [← isSome_find?] at live
  obtain ⟨m, found⟩ := Option.isSome_iff_exists.1 live
  by_cases same : l.id = task
  · rw [if_pos same, ← same, found]
    simp [id_of_find? found]
  · rw [if_neg same]
    cases other : t.find? task with
    | none => rfl
    | some x =>
        have apart : x.id ≠ l.id := by
          rw [id_of_find? other]
          exact Ne.symm same
        simp [apart]

@[simp] theorem find?_clear (t : Tracker κ) (task : TaskId) : t.clear.find? task = none := rfl

theorem contains_insert (l : LiveTask κ) (live : t.contains task = true) :
    (t.insert l).contains task = true := by
  rw [← isSome_find?, find?_insert]
  split
  · rfl
  · rw [isSome_find?]
    exact live

theorem contains_retire_of_ne {ended : TaskId} (ending : Ending) (other : ended ≠ task)
    (live : t.contains task = true) : (t.retire ended ending).contains task = true := by
  rw [← isSome_find?, find?_retire, if_neg other, isSome_find?]
  exact live

@[simp] theorem contains_replace (l : LiveTask κ) :
    (t.replace l).contains task = t.contains task := by
  rw [contains, contains, replace, List.any_map]
  congr 1
  funext x
  by_cases same : x.id = l.id <;> simp [same]

/-! ## Records -/

theorem lookup_record (retired : List (TaskId × Ending)) (ended : TaskId) (ending : Ending)
    (task : TaskId) :
    (record retired ended ending).lookup task =
      if ended = task then some ending else retired.lookup task := by
  rw [record, List.lookup_append]
  by_cases same : ended = task
  · have gone : (retired.filter fun r => r.1 != ended).lookup task = none := by
      rw [List.lookup_eq_none_iff]
      intro r kept
      rw [← same, bne_comm]
      exact (List.mem_filter.1 kept).2
    rw [gone, if_pos same, same]
    simp
  · have kept : (retired.filter fun r => r.1 != ended).lookup task = retired.lookup task := by
      induction retired with
      | nil => rfl
      | cons r rest ih =>
          by_cases other : r.1 = ended
          · have unlike : (task == r.1) = false := by
              simpa [other] using Ne.symm same
            rw [List.filter_cons_of_neg (by simp [other]), ih, List.lookup_cons, unlike]
          · rw [List.filter_cons_of_pos (by simp [other]), List.lookup_cons, List.lookup_cons, ih]
    have none : [(ended, ending)].lookup task = none := by
      simpa using Ne.symm same
    rw [kept, none, if_neg same, Option.or_none]

theorem ending?_retire (t : Tracker κ) (ended : TaskId) (ending : Ending) (task : TaskId) :
    (t.retire ended ending).ending? task = if ended = task then some ending else t.ending? task :=
  lookup_record t.retired ended ending task

/-- Of live tasks that are given up, the last one of a name makes the record. -/
theorem ending?_clear (t : Tracker κ) (task : TaskId) :
    t.clear.ending? task =
      ((t.live.reverse.find? fun l => l.id == task).map lostEnding).or (t.ending? task) := by
  obtain ⟨live, retired⟩ := t
  induction live using List.reverseRecOn with
  | nil => rfl
  | append_singleton live l ih =>
      rw [clear, ending?, List.foldl_append, List.foldl_cons, List.foldl_nil, lookup_record,
        List.reverse_append, List.reverse_singleton, List.singleton_append, List.find?_cons]
      by_cases same : l.id = task
      · simp [same]
      · have other : (l.id == task) = false := by simpa using same
        rw [if_neg same, other]
        exact ih

end Tracker

end OfferDispatch
