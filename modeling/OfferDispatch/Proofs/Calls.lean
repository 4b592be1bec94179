import OfferDispatch.Proofs.Turns

/-!
# The calls of an action

The scheduler changes the state of the cluster only by calling it, and each action makes calls of
its own kind only: one that places offers launches, one that connects registers or revives, and so
on. What those calls keep, the action keeps.

Placing is the one kind of action where a call and the books go together: a turn either makes no
call, or tries one launch, and the task is tracked exactly if the launch succeeds.
-/

namespace OfferDispatch

variable {δ κ : Type}

/-- The calls that an action may make. -/
def Action.MayCall : Action κ → Call → Prop
  | .connect _, .register _ | .connect _, .revive => True
  | .kill worker, .kill task => task = worker
  | .accept o, .decline id _ => id = o.id
  | .decline o _, .decline id _ => id = o
  | .place _, .launch .. | .turn _, .launch .. => True
  | .stop, .stop | .supervise, .stop | .inspect, .stop => True
  | _, _ => False

/-! ## Speaking on a link -/

namespace Link

variable [ClusterDriver δ] {may : Call → Prop} {j k l : Link δ}

/-- One link comes from another by calls of a certain kind, and pauses. -/
inductive Speaks (may : Call → Prop) (k : Link δ) : Link δ → Prop
  | silent : Speaks may k k
  | call {l : Link δ} {c : Call} (h : Speaks may k l) (ok : may c) : Speaks may k (l.call c).2
  | pause {l : Link δ} (h : Speaks may k l) (attempt : Nat) : Speaks may k (l.pause attempt)

namespace Speaks

theorem of_eq (same : l = k) : Speaks may k l := same ▸ .silent

theorem single {c : Call} (ok : may c) : Speaks may k (k.call c).2 := .call .silent ok

theorem trans (first : Speaks may j k) (second : Speaks may k l) : Speaks may j l := by
  induction second with
  | silent => exact first
  | call _ ok ih => exact .call ih ok
  | pause _ attempt ih => exact .pause ih attempt

theorem mono {more : Call → Prop} (h : Speaks may k l) (sub : ∀ c, may c → more c) :
    Speaks more k l := by
  induction h with
  | silent => exact .silent
  | call _ ok ih => exact .call ih (sub _ ok)
  | pause _ attempt ih => exact .pause ih attempt

/-- What was said on a link is of the kind that may be said. -/
theorem exists_said (h : Speaks may k l) :
    ∃ said, l.log = k.log ++ said ∧ ∀ c answer, .call c answer ∈ said → may c := by
  induction h with
  | silent => exact ⟨[], (List.append_nil _).symm, fun _ _ member => nomatch member⟩
  | @call l c _ ok ih =>
      obtain ⟨said, log, allowed⟩ := ih
      refine ⟨said ++ [.call c (l.call c).1], ?_, ?_⟩
      · rw [Link.log_call, log, List.append_assoc]
      · intro other answer member
        obtain earlier | last := List.mem_append.1 member
        · exact allowed other answer earlier
        · cases List.mem_singleton.1 last
          exact ok
  | pause _ attempt ih =>
      obtain ⟨said, log, allowed⟩ := ih
      refine ⟨said ++ [.pause attempt], ?_, ?_⟩
      · rw [Link.log_pause, log, List.append_assoc]
      · intro other answer member
        obtain earlier | last := List.mem_append.1 member
        · exact allowed other answer earlier
        · cases List.mem_singleton.1 last

/-- What calls of this kind keep of the cluster is kept. -/
theorem preserves {P : δ → Prop} (h : Speaks may k l)
    (called : ∀ c d, may c → P d → P (ClusterDriver.answer c d).2) (start : P k.driver) :
    P l.driver := by
  induction h with
  | silent => exact start
  | call _ ok ih => exact called _ _ ok ih
  | pause _ _ ih => exact ih

end Speaks

end Link

namespace Session

variable [ClusterDriver δ]

theorem speaks_register (info : FrameworkInfo) (further attempt : Nat) (link : Link δ) :
    link.Speaks (fun c => ∃ i, c = .register i) (register info further attempt link).2 := by
  have called (link : Link δ) : link.Speaks (fun c => ∃ i, c = .register i)
      (link.call (.register info)).2 := .single ⟨info, rfl⟩
  induction further generalizing attempt link with
  | zero => exact called link
  | succ further ih =>
      have tried := called link
      rw [register]
      split
      · next answered =>
          rw [answered] at tried
          exact tried
      · next answered =>
          rw [answered] at tried
          exact (tried.pause attempt).trans (ih (attempt + 1) _)

theorem speaks_start (s : Session δ) :
    s.link.Speaks (fun c => ∃ i, c = .register i) s.start.2.link := by
  rw [start]
  split
  · exact .silent
  · simp only
    split <;> exact speaks_register ..

theorem speaks_revive (s : Session δ) : s.link.Speaks (· = .revive) s.revive.link := by
  rw [revive]
  split
  · exact .single rfl
  · exact .silent

theorem speaks_stop (s : Session δ) : s.link.Speaks (· = .stop) s.stop.link := by
  rw [stop]
  split
  · exact .single rfl
  · exact .silent

end Session

/-! ## Turns -/

/-- The link, as a batch has been placed so far. -/
def Placement.link (p : Placement δ κ) : Link δ := p.scheduler.session.link

namespace Turn

variable [ClusterDriver δ]

/-- What a turn does on the link and in the books. -/
inductive Does (now : Instant) (t : Turn δ κ) : Prop
  /-- No launch is tried. -/
  | leave (link : (t.after now).link = t.met.link)
      (tracker : (t.after now).scheduler.tracker = t.met.scheduler.tracker)
      (declines : (t.after now).declines = t.met.declines ++ [(t.offer.id, t.refusal)])
  /-- The cluster refuses a launch on the offer. -/
  | refuse (task : Task Float) (e : DriverError)
      (answer : (t.met.link.call (.launch t.offer.id task)).1 = .error e)
      (link : (t.after now).link = (t.met.link.call (.launch t.offer.id task)).2)
      (tracker : (t.after now).scheduler.tracker = t.met.scheduler.tracker)
      (declines : (t.after now).declines = t.met.declines ++ [(t.offer.id, t.refusal)])
  /-- A launch on the offer succeeds, and the task is tracked. -/
  | launch (r : Request κ) (rest : RequestQueue κ) (tried : t.attempt? now = some (r, rest))
      (task : Task Float) (named : task.id = r.name)
      (answer : (t.met.link.call (.launch t.offer.id task)).1 = .ok ())
      (link : (t.after now).link = (t.met.link.call (.launch t.offer.id task)).2)
      (tracker : (t.after now).scheduler.tracker =
        t.met.scheduler.tracker.insert (.launched t.offer.id t.offer.agent r))
      (declines : (t.after now).declines = t.met.declines)

theorem does (now : Instant) (t : Turn δ κ) : t.Does now := by
  cases tried : t.attempt? now with
  | none =>
      obtain ⟨unmatched, unused⟩ := after_of_attempt_eq_none tried
      exact .leave (by rw [unused]; rfl) (by rw [unused]; rfl) (by rw [unused]; rfl)
  | some taken =>
      obtain ⟨r, rest⟩ := taken
      have shortly : t.refusal = shortDecline := if_neg (waiting_ne_nil_of_attempt tried)
      have after := after_of_attempt tried
      cases built : t.met.build t.offer r with
      | error fault =>
          rw [Placement.build] at built
          simp only [Placement.launch, Launcher.submit, built] at after
          exact .leave (by rw [after]; rfl) (by rw [after]; rfl) (by rw [after, shortly]; rfl)
      | ok task =>
          have named : task.id = r.name := Launcher.id_of_build built
          rw [Placement.build] at built
          cases answered : t.met.link.call (.launch t.offer.id task) with
          | mk answer link =>
              have called := answered
              rw [Placement.link] at called
              cases answer with
              | ok =>
                  simp only [Placement.launch, Launcher.submit, built, called] at after
                  exact .launch r rest tried task named (by rw [answered])
                    (by rw [after, answered]; rfl) (by rw [after]) (by rw [after])
              | error e =>
                  simp only [Placement.launch, Launcher.submit, built, called] at after
                  exact .refuse task e (by rw [answered]) (by rw [after, answered]; rfl)
                    (by rw [after]; rfl) (by rw [after, shortly]; rfl)

omit [ClusterDriver δ] in
/-- No task is live under the name of a request whose launch is tried. -/
theorem untracked_of_attempt {now : Instant} {t : Turn δ κ} {created : List (Notice κ)}
    (wn : (t.met.scheduler.ledger created).WellNamed) {r : Request κ} {rest : RequestQueue κ}
    (tried : t.attempt? now = some (r, rest)) :
    r.name ∉ t.met.scheduler.tracker.live.map (·.id) := by
  obtain ⟨-, taken⟩ := attempt?_eq_some_iff.1 tried
  obtain ⟨before, after, split, -⟩ := RequestQueue.exists_of_take? taken
  intro live
  exact wn.not_mem_tasks (by simp [Scheduler.ledger, split]) (List.mem_append_left _ live)

/-- A turn makes no call but a launch. -/
theorem speaks_after (now : Instant) (t : Turn δ κ) :
    t.met.link.Speaks (fun c => ∃ offer task, c = .launch offer task) (t.after now).link := by
  cases t.does now with
  | leave link => exact .of_eq link
  | refuse _ _ _ link | launch _ _ _ _ _ _ link =>
      rw [link]
      exact .single ⟨_, _, rfl⟩

end Turn

/-! ## Actions -/

namespace Scheduler

variable [ClusterDriver δ]

theorem speaks_place (now : Instant) (s : Scheduler δ κ) (batch : List (Offer Float)) :
    s.session.link.Speaks (fun c => ∃ offer task, c = .launch offer task)
      (s.place now batch).scheduler.session.link :=
  Placement.rel_foldl_offer
    (R := fun p q => p.link.Speaks (fun c => ∃ offer task, c = .launch offer task) q.link)
    (fun _ => .silent) .trans (Turn.speaks_after now) _ ⟨s, [], []⟩

theorem speaks_supervise (nodes : Nat) (s : Scheduler δ κ) :
    s.session.link.Speaks (· = .stop) (OfferDispatch.supervise nodes s).2.session.link := by
  rw [supervise_eq]
  split
  · split
    · change s.session.link.Speaks _ (s.giveUp nodes).session.stop.link
      rw [session_giveUp]
      exact s.session.speaks_stop
    · rw [session_giveUp]
      exact .silent
  · exact .silent

/-- An action makes no calls but those that it may make. -/
theorem speaks_perform (env : Surroundings) (s : Scheduler δ κ) (action : Action κ) :
    s.session.link.Speaks action.MayCall (s.perform env action).2.session.link := by
  cases action with
  | connect worker =>
      simp only [perform, connect]
      split
      · refine s.session.speaks_revive.mono ?_
        rintro c rfl
        trivial
      · have registers : ∀ c, (∃ i, c = .register i) →
            (Action.connect worker : Action κ).MayCall c := by
          rintro c ⟨i, rfl⟩
          trivial
        split <;> exact s.session.speaks_start.mono registers
  | kill worker => exact .single rfl
  | accept o =>
      simp only [perform, accept]
      split
      · exact .silent
      · exact .single rfl
  | decline o refuse => exact .single rfl
  | place batch =>
      simp only [perform]
      split
      · exact .silent
      · refine (s.speaks_place env.now batch).mono ?_
        rintro c ⟨offer, task, rfl⟩
        trivial
  | turn generation =>
      simp only [perform, turn]
      split
      · split
        · exact .silent
        · let drained := { s with buffer := s.buffer.drain.2 }
          refine (drained.speaks_place env.now s.buffer.drain.1).mono ?_
          rintro c ⟨offer, task, rfl⟩
          trivial
      · exact .silent
  | stop =>
      refine s.session.speaks_stop.mono ?_
      rintro c rfl
      trivial
  | supervise | inspect =>
      refine (s.speaks_supervise env.nodes).mono ?_
      rintro c rfl
      trivial
  | enlist r =>
      simp only [perform, enlist]
      split
      · split <;> exact .silent
      · exact .silent
  | cancel worker =>
      simp only [perform, cancel]
      split
      · exact .silent
      · split <;> exact .silent
  | apply status =>
      simp only [perform, apply]
      split
      · exact .silent
      · split <;> exact .silent
  | startLoop =>
      simp only [perform, ensureLoop]
      split <;> exact .silent
  | review generation =>
      simp only [perform]
      split <;> exact .silent
  | withdraw | drain | rescind | assign | release | tell | answer => exact .silent

end Scheduler

end OfferDispatch
