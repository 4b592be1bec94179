import OfferDispatch.Proofs.FirstFit

/-!
# Where notices come from

A notice comes about in one of three ways: a request that waits fails, a status is applied to a live
task, or live tasks are given up because there are no nodes. The last two are about tasks; only a
status can be the reason that a worker is announced as running, and it is the one thing that comes
about then.
-/

namespace OfferDispatch

variable {δ κ : Type}

namespace Tracker

/-- A status leads to one notice at most, which is about its task. -/
theorem notices_onStatus? {t : Tracker κ} {status : TaskStatus} {effect : StatusEffect κ}
    (h : t.onStatus? status = some effect) :
    effect.notices = [] ∨
      ∃ l ∈ t.live, ∃ kind, l.id = status.task ∧ effect.notices = [l.notice kind] := by
  rw [onStatus?] at h
  split at h
  · next task found =>
      obtain ⟨own, before, after, at_⟩ := exists_of_find? found
      have live : task ∈ t.live := by simp [at_]
      split at h
      · cases h
        exact .inl rfl
      · cases h
        rw [advance]
        split
        · exact .inr ⟨task, live, _, own, rfl⟩
        split
        · exact .inr ⟨task, live, _, own, rfl⟩
        · exact .inl rfl
  · obtain ⟨_, _, rfl⟩ := Option.map_eq_some_iff.1 h
    exact .inl rfl

end Tracker

variable [ClusterDriver δ]

/-- What hosts are to be told in addition after a turn is that the request has failed. -/
theorem Turn.mem_notices_after {now : Instant} (t : Turn δ κ) {n : Notice κ}
    (member : n ∈ (t.after now).notices) :
    n ∈ t.met.notices ∨ ∃ r ∈ t.waiting, n = r.failed := by
  cases tried : t.attempt? now with
  | none =>
      obtain ⟨unmatched, unused⟩ := after_of_attempt_eq_none tried
      rw [unused] at member
      exact .inl member
  | some taken =>
      obtain ⟨r, rest⟩ := taken
      obtain ⟨-, found⟩ := attempt?_eq_some_iff.1 tried
      obtain ⟨before, after, at_, -⟩ := RequestQueue.exists_of_take? found
      have waits : r ∈ t.waiting := by simp [waiting, Placement.waiting, at_]
      rw [after_of_attempt tried] at member
      obtain ⟨result, -⟩ | ⟨e, result, -, notices, -⟩ :=
        t.met.scheduler.launcher.submit_cases t.met.scheduler.session.link t.offer r
          (t.offer.allocation t.met.scheduler.settings.role r.spec) t.met.scheduler.tracker
      · simp only [Placement.launch, result] at member
        exact .inl member
      · simp only [Placement.launch, result, notices, Placement.decline, List.mem_append,
          List.mem_singleton] at member
        exact member.imp_right fun failed => ⟨r, waits, failed⟩

/-- What hosts are to be told after a batch is of requests that waited, each of which has failed. -/
theorem Scheduler.mem_notices_place {now : Instant} {s : Scheduler δ κ}
    {batch : List (Offer Float)} {n : Notice κ} (member : n ∈ (s.place now batch).notices) :
    ∃ r ∈ s.requests.waiting, n = r.failed := by
  have whole := Placement.rel_foldl_offer
    (R := fun p q : Placement δ κ => q.waiting ⊆ p.waiting ∧
      ∀ n ∈ q.notices, n ∈ p.notices ∨ ∃ r ∈ p.waiting, n = r.failed)
    (fun p => ⟨fun _ h => h, fun _ h => .inl h⟩)
    (fun {p q r} first second => ⟨fun _ h => first.1 (second.1 h), fun n told => by
      obtain earlier | ⟨r, waits, failed⟩ := second.2 n told
      · exact first.2 n earlier
      · exact .inr ⟨r, first.1 waits, failed⟩⟩)
    (fun t => ⟨(t.waiting_after now).1.subset, fun _ => t.mem_notices_after⟩)
    (arrangeByAffinity s.affinity batch) ⟨s, [], []⟩
  obtain earlier | failed := whole.2 n member
  · cases earlier
  · exact failed

namespace Scheduler

/-- Where a notice comes from that comes about in an action. -/
inductive Source (env : Surroundings) (s : Scheduler δ κ) : Action κ → Notice κ → Prop
  | request {action : Action κ} {r : Request κ} (waits : r ∈ s.requests.waiting) :
      Source env s action r.failed
  | status {status : TaskStatus} {l : LiveTask κ} {kind : NoticeKind} (live : l ∈ s.tracker.live)
      (own : l.id = status.task) (only : s.created env (.apply status) = [l.notice kind]) :
      Source env s (.apply status) (l.notice kind)
  | loss {action : Action κ} {l : LiveTask κ} (supervises : action = .supervise ∨ action = .inspect)
      (none : env.nodes = 0) (runs : s.session.running = true) (live : l ∈ s.tracker.live) :
      Source env s action (l.notice .failed)

variable {env : Surroundings} {s : Scheduler δ κ} {action : Action κ} {n : Notice κ}

theorem mem_created_of_ne (member : n ∈ s.created env action) :
    n ∈ tells (s.perform env action).1 ∨
      n ∈ (s.perform env action).2.deferred.drop s.deferred.length := by
  by_cases release : action = .release
  · subst release
    cases member
  · rw [created_of_ne release] at member
    exact List.mem_append.1 member

theorem source_of_mem_giveUp
    (supervises : action = .supervise ∨ action = .inspect) (runs : s.session.running = true)
    (member : n ∈ (s.giveUp env.nodes).deferred.drop s.deferred.length) : s.Source env action n := by
  rw [giveUp] at member
  split at member
  · next none =>
      rw [List.drop_left] at member
      obtain ⟨l, live, rfl⟩ := List.mem_map.1 member
      exact .loss supervises none runs live
  · rw [List.drop_length] at member
    cases member

theorem source_of_mem_supervise
    (supervises : action = .supervise ∨ action = .inspect)
    (member : n ∈ (OfferDispatch.supervise env.nodes s).2.deferred.drop s.deferred.length) :
    s.Source env action n := by
  rw [supervise_eq] at member
  split at member
  · next runs =>
      have given : n ∈ (s.giveUp env.nodes).deferred.drop s.deferred.length := by
        split at member <;> exact member
      exact source_of_mem_giveUp supervises runs given
  · rw [List.drop_length] at member
    cases member

theorem source_of_mem_placed {t : Scheduler δ κ} {batch : List (Offer Float)}
    (requests : t.requests = s.requests) (deferred : t.deferred = s.deferred)
    (member : n ∈ tells (placed (t.place env.now batch)).1 ∨
      n ∈ (placed (t.place env.now batch)).2.deferred.drop s.deferred.length) :
    s.Source env action n := by
  have same : (placed (t.place env.now batch)).2.deferred = t.deferred :=
    (placed_place env.now t batch).deferred_eq
  rw [tells_placed, same, deferred, List.drop_length] at member
  obtain told | none := member
  · obtain ⟨r, waits, rfl⟩ := mem_notices_place told
    rw [requests] at waits
    exact .request waits
  · cases none

theorem deferred_apply (env : Surroundings) (s : Scheduler δ κ) (status : TaskStatus) :
    (s.perform env (.apply status)).2.deferred = s.deferred := by
  simp only [perform, apply]
  split
  · rfl
  · split <;> rfl

theorem source_of_mem_apply {status : TaskStatus} (member : n ∈ s.created env (.apply status)) :
    s.Source env (.apply status) n := by
  have other : (.apply status : Action κ) ≠ .release := nofun
  have created := created_of_deferred other (deferred_apply env s status)
  have told := member
  rw [created] at told
  simp only [perform, apply] at told created
  split at told
  · next effect applied =>
      simp only [applied] at created
      simp only [tells_append, tells_map_tell, tells_afterEnd, tells_answer_cons, tells_nil,
        List.append_nil] at told created
      obtain none | ⟨l, live, kind, own, only⟩ := Tracker.notices_onStatus? applied
      · rw [none] at told
        cases told
      · rw [only] at told created
        obtain rfl := List.mem_singleton.1 told
        exact .status live own created
  · split at told
    · cases told
    · simp at told

/-- Every notice has a source. -/
theorem source_of_mem_created (member : n ∈ s.created env action) : s.Source env action n := by
  by_cases quiet : action.isQuiet = true
  · rw [created_of_isQuiet env s quiet] at member
    cases member
  have parts := mem_created_of_ne member
  cases action with
  | apply status => exact source_of_mem_apply member
  | supervise =>
      obtain none | given := parts
      · cases none
      · exact source_of_mem_supervise (.inl rfl) given
  | inspect =>
      obtain none | given := parts
      · cases none
      · exact source_of_mem_supervise (.inr rfl) given
  | place batch =>
      simp only [perform] at parts
      split at parts
      · simp at parts
      · exact source_of_mem_placed rfl rfl parts
  | turn generation =>
      simp only [perform, turn] at parts
      split at parts
      · split at parts
        · simp [tells] at parts
        · rw [tells_append] at parts
          exact source_of_mem_placed (t := { s with buffer := s.buffer.drain.2 }) rfl rfl
            (by simpa [tells] using parts)
      · simp [endLoop] at parts
  | cancel worker =>
      simp only [perform, cancel] at parts
      split at parts
      · simp [tells] at parts
      · split at parts
        · next r rest taken =>
            obtain ⟨before, after, at_, -⟩ := RequestQueue.exists_of_take? taken
            obtain rfl : n = r.failed := by simpa [tells_append] using parts
            exact .request (by simp [at_])
        · simp at parts
  | enlist r =>
      obtain ⟨e, done⟩ | ⟨-, done⟩ := s.enlist_cases r
      · simp [perform, done] at parts
      · simp [perform, done, tells] at parts
  | withdraw worker e => simp [perform] at parts
  | stop => simp [perform, stop] at parts
  | release => cases member
  | _ => exact absurd rfl quiet

/-- All that is ever deferred is that workers have ended. -/
theorem isEnd_of_mem_deferred (ended : ∀ n ∈ s.deferred, n.kind.isEnd = true)
    (member : n ∈ (s.perform env action).2.deferred) : n.kind.isEnd = true := by
  by_cases release : action = .release
  · subst release
    cases member
  · obtain ⟨more, grown⟩ := deferred_prefix_perform env s release
    rw [← grown] at member
    obtain earlier | new := List.mem_append.1 member
    · exact ended n earlier
    · have created : n ∈ s.created env action := by
        rw [created_of_ne release, ← grown, List.drop_left]
        exact List.mem_append_right _ new
      cases source_of_mem_created created with
      | request | loss => rfl
      | @status status l kind live own only =>
          have none : more = [] := by
            have same := deferred_apply env s status
            rw [← grown] at same
            simpa using same
          rw [none] at new
          cases new

/-- Only a status leaves it to be told that a worker runs, and then nothing else comes about. -/
theorem apply_of_running_mem_tells (ended : ∀ n ∈ s.deferred, n.kind.isEnd = true)
    (member : n ∈ tells (s.perform env action).1) (running : n.kind = .running) :
    ∃ status, action = .apply status ∧ n.place.worker = status.task ∧
      s.created env action = [n] := by
  by_cases release : action = .release
  · subst release
    simp only [perform, tells_map_tell] at member
    have end_ := ended n member
    rw [running] at end_
    cases end_
  · have created : n ∈ s.created env action := by
      rw [created_of_ne release]
      exact List.mem_append_left _ member
    cases source_of_mem_created created with
    | request | loss => cases running
    | @status status l kind live own only => exact ⟨status, rfl, own, only⟩

end Scheduler

end OfferDispatch
