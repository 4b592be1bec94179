import Mathlib.Data.List.Chain
import Mathlib.Data.List.Induction
import Mathlib.Logic.Function.Iterate
import Mathlib.Order.Bounds.Defs
import OfferDispatch.Cluster.Recorder
import OfferDispatch.Session.Basic

/-!
# The life of a session

A session is asked one thing after another: to start, to stop, to ask for offers again, to remember
the id that it was assigned. The cluster may answer as it likes. Of what is said to it, two things
mark the life of the session: that a registration succeeds, and that the framework is told to leave.
They alternate, and a session runs from the one to the other.

A session is started in attempts. How many there are depends on the answers that the driver has in
store for registrations in a row: the first one that succeeds is the last attempt, and so is the one
that reaches the limit.
-/

namespace OfferDispatch

variable {δ : Type}

/-! ## Marks -/

/-- What marks the life of a session. -/
inductive Mark
  | registered
  | stopped
  deriving DecidableEq, Repr

/-- The mark that an exchange sets. A cluster that is told to stop cannot object to it. -/
def Exchange.mark? : Exchange → Option Mark
  | .call (.register _) (.ok _) => some .registered
  | .call .stop _ => some .stopped
  | _ => none

def marks (log : List Exchange) : List Mark := log.filterMap Exchange.mark?

/-- The latest mark; before there is any, nobody has registered. -/
def lastMark (log : List Exchange) : Mark := (marks log).getLast?.getD .stopped

@[simp] theorem marks_append (log said : List Exchange) :
    marks (log ++ said) = marks log ++ marks said := List.filterMap_append

theorem lastMark_append_of_marks {log said : List Exchange} {m : Mark} (h : marks said = [m]) :
    lastMark (log ++ said) = m := by
  simp [lastMark, h]

theorem lastMark_append_of_none {log said : List Exchange} (h : marks said = []) :
    lastMark (log ++ said) = lastMark log := by
  simp [lastMark, h]

theorem lastMark_eq_registered_iff {log : List Exchange} :
    lastMark log = .registered ↔ (marks log).getLast? = some .registered := by
  rw [lastMark]
  cases (marks log).getLast? <;> simp

/-- The marks alternate, beginning with a registration. -/
def Alternating (ms : List Mark) : Prop := (Mark.stopped :: ms).IsChain (· ≠ ·)

instance (ms : List Mark) : Decidable (Alternating ms) :=
  inferInstanceAs (Decidable (List.IsChain _ _))

theorem alternating_nil : Alternating [] := List.isChain_singleton _

/-- The marks go on to alternate if the next one differs from the last. -/
theorem Alternating.concat {log : List Exchange} {m : Mark} (h : Alternating (marks log))
    (new : lastMark log ≠ m) : Alternating (marks log ++ [m]) := by
  rw [Alternating, ← List.cons_append, List.isChain_append]
  refine ⟨h, List.isChain_singleton _, ?_⟩
  intro last isLast next isNext
  obtain rfl := Option.some.inj isNext
  rw [List.getLast?_cons, Option.mem_some_iff] at isLast
  rw [← isLast]
  exact new

/-! ## Attempts -/

variable [ClusterDriver δ]

/-- The answer that a driver has in store for the registration of this number in a row. -/
def answerOf (info : FrameworkInfo) (d : δ) (attempt : Nat) : Answer :=
  (ClusterDriver.answer (.register info)
    ((fun d => (ClusterDriver.answer (.register info) d).2)^[attempt] d)).1

/-- The positions, counted from one, at which registrations in a row succeed. -/
def successes (info : FrameworkInfo) (d : δ) : Set Nat :=
  {p | 0 < p ∧ answerOf info d (p - 1) = .ok ()}

/-- What is said in a first attempt to register and so many further ones, where `first` is the
number of the first pause: there is one pause between any two attempts and none after the last. -/
def attemptsFrom (info : FrameworkInfo) (d : δ) (first further : Nat) : List Exchange :=
  .call (.register info) (answerOf info d 0) :: (List.range further).flatMap fun k =>
    [.pause (first + k), .call (.register info) (answerOf info d (k + 1))]

/-- What is said in so many attempts to register. -/
def attempts (info : FrameworkInfo) (d : δ) (count : Nat) : List Exchange :=
  attemptsFrom info d 0 (count - 1)

theorem answerOf_succ (info : FrameworkInfo) (d : δ) (attempt : Nat) :
    answerOf info (ClusterDriver.answer (.register info) d).2 attempt =
      answerOf info d (attempt + 1) := by
  rw [answerOf, answerOf, Function.iterate_succ_apply]

theorem attemptsFrom_succ (info : FrameworkInfo) (d : δ) (first further : Nat) :
    attemptsFrom info d first (further + 1) =
      [.call (.register info) (answerOf info d 0), .pause first] ++
        attemptsFrom info (ClusterDriver.answer (.register info) d).2 (first + 1) further := by
  have shifted : ((List.range further).map Nat.succ).flatMap (fun k =>
      [Exchange.pause (first + k), .call (.register info) (answerOf info d (k + 1))]) =
      (List.range further).flatMap fun k =>
        [.pause (first + 1 + k), .call (.register info)
          (answerOf info (ClusterDriver.answer (.register info) d).2 (k + 1))] := by
    rw [List.flatMap_map]
    refine List.flatMap_congr fun k _ => ?_
    rw [answerOf_succ, Nat.add_assoc first 1 k, Nat.add_comm 1 k]
  rw [attemptsFrom, attemptsFrom, List.range_succ_eq_map, List.flatMap_cons, shifted, answerOf_succ]
  rfl

theorem attemptsFrom_concat (info : FrameworkInfo) (d : δ) (first further : Nat) :
    attemptsFrom info d first (further + 1) = attemptsFrom info d first further ++
      [.pause (first + further), .call (.register info) (answerOf info d (further + 1))] := by
  rw [attemptsFrom, attemptsFrom, List.range_succ, List.flatMap_append, List.flatMap_singleton]
  rfl

@[simp] theorem Link.driver_pause {δ : Type} (l : Link δ) (attempt : Nat) :
    (l.pause attempt).driver = l.driver := rfl

/-- All that is said in attempts is that a framework registers, and there are pauses. -/
theorem eq_of_mem_attemptsFrom {info : FrameworkInfo} {d : δ} {first further : Nat} {e : Exchange}
    (said : e ∈ attemptsFrom info d first further) :
    (∃ answer, e = .call (.register info) answer) ∨ ∃ k, e = .pause k := by
  rw [attemptsFrom, List.mem_cons, List.mem_flatMap] at said
  obtain rfl | ⟨k, -, member⟩ := said
  · exact .inl ⟨_, rfl⟩
  · obtain rfl | rfl := by simpa using member
    · exact .inr ⟨_, rfl⟩
    · exact .inl ⟨_, rfl⟩

/-- As long as attempts fail they set no mark, so that only the last one may set one. -/
theorem marks_attemptsFrom {info : FrameworkInfo} {d : δ} {made : Nat}
    (failed : ∀ k < made, answerOf info d k ≠ .ok ()) (first : Nat) :
    marks (attemptsFrom info d first made) =
      (Exchange.call (.register info) (answerOf info d made)).mark?.toList := by
  have single (answer : Answer) : marks [.call (.register info) answer] =
      (Exchange.call (.register info) answer).mark?.toList := by
    cases answer <;> rfl
  induction made with
  | zero => exact single _
  | succ made ih =>
      have silent : (Exchange.call (.register info) (answerOf info d made)).mark? = none := by
        cases answered : answerOf info d made with
        | ok => exact absurd answered (failed made (Nat.lt_succ_self made))
        | error => rfl
      have earlier := ih fun k lt => failed k (Nat.lt_succ_of_lt lt)
      rw [attemptsFrom_concat, marks_append, earlier, silent]
      exact single _

namespace Session

/-- Attempts go on until one succeeds or none is left; the answer to the last is the result. -/
theorem register_spec (info : FrameworkInfo) (further first : Nat) (link : Link δ) :
    ∃ made ≤ further,
      (∀ k < made, answerOf info link.driver k ≠ .ok ()) ∧
      (made = further ∨ answerOf info link.driver made = .ok ()) ∧
      (register info further first link).1 = answerOf info link.driver made ∧
      (register info further first link).2.log =
        link.log ++ attemptsFrom info link.driver first made := by
  induction further generalizing first link with
  | zero => exact ⟨0, Nat.le_refl _, by simp, .inl rfl, rfl, rfl⟩
  | succ further ih =>
      have now : (link.call (.register info)).1 = answerOf info link.driver 0 := rfl
      have log := Link.log_call link (.register info)
      rw [register]
      cases called : link.call (.register info) with
      | mk answer after =>
          rw [called] at now log
          cases answer with
          | ok =>
              refine ⟨0, Nat.zero_le _, by simp, .inr now.symm, now, ?_⟩
              rw [log, now]
              rfl
          | error e =>
              have driver :
                  after.driver = (ClusterDriver.answer (.register info) link.driver).2 := by
                rw [← congrArg (fun c => c.2.driver) called]
                rfl
              have refused : answerOf info link.driver 0 ≠ .ok () := by
                rw [← now]
                exact nofun
              obtain ⟨made, le, failed, last, result, said⟩ := ih (first + 1) (after.pause first)
              simp only [Link.driver_pause, driver, answerOf_succ] at failed last result said
              refine ⟨made + 1, Nat.succ_le_succ le, ?_, ?_, result, ?_⟩
              · intro k lt
                cases k with
                | zero => exact refused
                | succ k => exact failed k (Nat.lt_of_succ_lt_succ lt)
              · exact last.imp_left (congrArg Nat.succ)
              · refine said.trans ?_
                rw [attemptsFrom_succ, Link.log_pause, log, ← now]
                simp

/-- Registering sets a mark exactly if it succeeds, and it never asks for offers again. -/
theorem said_register (info : FrameworkInfo) (further first : Nat) (link : Link δ) :
    ∃ said, (register info further first link).2.log = link.log ++ said ∧
      (∀ e ∈ said, (∃ answer, e = .call (.register info) answer) ∨ ∃ k, e = .pause k) ∧
      marks said =
        (Exchange.call (.register info) (register info further first link).1).mark?.toList := by
  obtain ⟨made, -, failed, -, result, log⟩ := register_spec info further first link
  refine ⟨_, log, fun e said => eq_of_mem_attemptsFrom said, ?_⟩
  rw [marks_attemptsFrom failed, result]

/-- A session that does not run registers as often as it takes to succeed, but not more often than
there may be attempts. It runs if one of them succeeds; otherwise it fails for the reason that the
last one failed. -/
structure Starts (info : FrameworkInfo) (limit : Nat) (s : Session δ) : Prop where
  attempts : ∃ count, s.start.2.link.log =
      s.link.log ++ OfferDispatch.attempts info s.link.driver count ∧
    (∀ p, IsLeast (successes info s.link.driver) p → count = min p limit) ∧
    (successes info s.link.driver = ∅ → count = limit)
  ok_iff : s.start.1 = .ok () ↔ ∃ p ∈ successes info s.link.driver, p ≤ limit
  failed : s.start.1 ≠ .ok () → ∃ e, answerOf info s.link.driver (limit - 1) = .error e ∧
    s.start.1 = .error (.registrationFailed limit e)
  running_iff : s.start.2.running = true ↔ s.start.1 = .ok ()

/-- What a start says is what is said to register. -/
theorem link_start_of_stopped {s : Session δ} (off : s.running = false) :
    s.start.2.link = (register s.registration (s.maxAttempts - 1) 0 s.link).2 := by
  rw [start, if_neg (Bool.eq_false_iff.1 off)]
  simp only
  split <;> rfl

/-- A registration that succeeds has the session run. -/
theorem start_of_registered {s : Session δ} (off : s.running = false)
    (result : (register s.registration (s.maxAttempts - 1) 0 s.link).1 = .ok ()) :
    s.start = (.ok (), { s with
      running := true
      link := (register s.registration (s.maxAttempts - 1) 0 s.link).2 }) := by
  rw [start, if_neg (Bool.eq_false_iff.1 off)]
  simp only [result]

/-- If no registration succeeds, the session goes on not to run. -/
theorem start_of_refused {s : Session δ} {e : DriverError} (off : s.running = false)
    (result : (register s.registration (s.maxAttempts - 1) 0 s.link).1 = .error e) :
    s.start = (.error (.registrationFailed s.maxAttempts e), { s with
      link := (register s.registration (s.maxAttempts - 1) 0 s.link).2 }) := by
  rw [start, if_neg (Bool.eq_false_iff.1 off)]
  simp only [result]

theorem starts_of_stopped {s : Session δ} (off : s.running = false)
    (positive : 0 < s.maxAttempts) : s.Starts s.registration s.maxAttempts := by
  obtain ⟨made, le, failed, last, result, log⟩ :=
    register_spec s.registration (s.maxAttempts - 1) 0 s.link
  have said : s.start.2.link.log =
      s.link.log ++ OfferDispatch.attempts s.registration s.link.driver (made + 1) := by
    rw [link_start_of_stopped off, log, attempts, Nat.add_sub_cancel]
  have first {p : Nat} (success : p ∈ successes s.registration s.link.driver) : made < p := by
    obtain ⟨positive, accepted⟩ := success
    refine Nat.lt_of_not_le fun early => ?_
    exact failed (p - 1) (by omega) accepted
  cases answered : answerOf s.registration s.link.driver made with
  | ok =>
      have success : made + 1 ∈ successes s.registration s.link.driver :=
        ⟨Nat.succ_pos _, answered⟩
      have started := start_of_registered off (result.trans answered)
      refine ⟨⟨made + 1, said, ?_, ?_⟩, ?_, ?_, ?_⟩
      · intro p least
        have lower := least.2 success
        have upper := first least.1
        omega
      · intro none
        rw [none] at success
        exact success.elim
      · exact iff_of_true (by rw [started]) ⟨made + 1, success, by omega⟩
      · exact fun refused => absurd (by rw [started]) refused
      · exact iff_of_true (by rw [started]) (by rw [started])
  | error e =>
      have all : made = s.maxAttempts - 1 := by
        refine last.resolve_right fun accepted => ?_
        rw [answered] at accepted
        cases accepted
      have late {p : Nat} (success : p ∈ successes s.registration s.link.driver) :
          s.maxAttempts < p := by
        have after := first success
        refine Nat.lt_of_le_of_ne (by omega) ?_
        intro same
        have accepted := success.2
        rw [← same, ← all, answered] at accepted
        cases accepted
      have started := start_of_refused off (result.trans answered)
      have refused : s.start.1 ≠ .ok () := by
        rw [started]
        exact nofun
      refine ⟨⟨made + 1, said, ?_, ?_⟩, ?_, ?_, ?_⟩
      · intro p least
        have upper := late least.1
        omega
      · intro none
        omega
      · refine iff_of_false refused ?_
        rintro ⟨p, success, le⟩
        have upper := late success
        omega
      · intro _
        rw [← all]
        exact ⟨e, answered, by rw [started]⟩
      · refine iff_of_false ?_ refused
        rw [started]
        exact Bool.eq_false_iff.1 off

end Session

/-! ## One step after another -/

inductive SessionStep
  | start
  | stop
  | revive
  | assign (id : FrameworkId)
  deriving DecidableEq, Repr

/-- The id that a session is to remember, if that is what it is asked. -/
def SessionStep.assigns? : SessionStep → Option FrameworkId
  | assign id => some id
  | _ => none

/-- The id that was assigned most recently. -/
def lastAssigned (steps : List SessionStep) : Option FrameworkId :=
  (steps.filterMap SessionStep.assigns?).getLast?

/-- Offers are asked for again only between a registration and the next time the framework leaves.
-/
def RevivesInSession (log : List Exchange) : Prop :=
  ∀ before after answer, log = before ++ .call .revive answer :: after →
    lastMark before = .registered

theorem RevivesInSession.append {log said : List Exchange} (h : RevivesInSession log)
    (inSession : ∀ before after answer, said = before ++ .call .revive answer :: after →
      lastMark (log ++ before) = .registered) : RevivesInSession (log ++ said) := by
  intro before after answer split
  obtain ⟨rest, rfl, later⟩ | ⟨rest, rfl, earlier⟩ := List.append_eq_append_iff.1 split
  · exact inSession rest after answer later
  · cases rest with
    | nil =>
        have last := inSession [] after answer earlier.symm
        rwa [List.append_nil, List.append_nil] at last
    | cons e rest =>
        obtain ⟨rfl, -⟩ := List.cons.inj earlier
        exact h before rest answer rfl

theorem RevivesInSession.append_of_not_mem {log said : List Exchange} (h : RevivesInSession log)
    (none : ∀ answer, .call .revive answer ∉ said) : RevivesInSession (log ++ said) := by
  refine h.append ?_
  rintro before after answer rfl
  exact absurd (by simp) (none answer)

namespace Session

def step (s : Session δ) : SessionStep → Session δ
  | .start => s.start.2
  | .stop => s.stop
  | .revive => s.revive
  | .assign id => s.assign id

def after (s : Session δ) (steps : List SessionStep) : Session δ := steps.foldl step s

structure Proper (info : FrameworkInfo) (limit : Nat) (s : Session δ) : Prop where
  info_eq : s.info = info
  maxAttempts_eq : s.maxAttempts = limit
  alternating : Alternating (marks s.link.log)
  running_iff : s.running = true ↔ lastMark s.link.log = .registered
  revives : RevivesInSession s.link.log

variable {info : FrameworkInfo} {limit : Nat} {s : Session δ}

omit [ClusterDriver δ] in
theorem proper_new (driver : δ) (info : FrameworkInfo) (limit : Nat) :
    (new driver info limit).Proper info (max limit 1) where
  info_eq := rfl
  maxAttempts_eq := rfl
  alternating := alternating_nil
  running_iff := ⟨nofun, nofun⟩
  revives := fun before after answer split => by simp [new] at split

omit [ClusterDriver δ] in
theorem Proper.lastMark_of_stopped (h : s.Proper info limit) (off : s.running = false) :
    lastMark s.link.log = .stopped := by
  cases last : lastMark s.link.log with
  | registered => exact absurd (h.running_iff.2 last) (Bool.eq_false_iff.1 off)
  | stopped => rfl

omit [ClusterDriver δ] in
/-- Something is said that sets no mark, or the next mark and with it whether the session runs. -/
theorem Proper.grows {t : Session δ} {said : List Exchange} (h : s.Proper info limit)
    (info_eq : t.info = s.info) (maxAttempts_eq : t.maxAttempts = s.maxAttempts)
    (log : t.link.log = s.link.log ++ said) (revives : RevivesInSession (s.link.log ++ said))
    (turn : marks said = [] ∧ t.running = s.running ∨
      ∃ m, marks said = [m] ∧ lastMark s.link.log ≠ m ∧ (t.running = true ↔ m = .registered)) :
    t.Proper info limit := by
  refine ⟨info_eq.trans h.info_eq, maxAttempts_eq.trans h.maxAttempts_eq, ?_, ?_, log ▸ revives⟩
  · rw [log, marks_append]
    obtain ⟨silent, -⟩ | ⟨m, marked, new, -⟩ := turn
    · rw [silent, List.append_nil]
      exact h.alternating
    · rw [marked]
      exact h.alternating.concat new
  · rw [log]
    obtain ⟨silent, same⟩ | ⟨m, marked, -, runs⟩ := turn
    · rw [same, lastMark_append_of_none silent]
      exact h.running_iff
    · rw [lastMark_append_of_marks marked]
      exact runs

/-- Whatever a session is asked, it goes on to lead a proper life. -/
theorem Proper.step (h : s.Proper info limit) (x : SessionStep) :
    (s.step x).Proper info limit := by
  cases x with
  | assign id => exact ⟨h.info_eq, h.maxAttempts_eq, h.alternating, h.running_iff, h.revives⟩
  | stop =>
      rw [Session.step, Session.stop]
      split
      · next runs =>
          have registered : lastMark s.link.log ≠ .stopped := by simp [h.running_iff.1 runs]
          refine h.grows rfl rfl (Link.log_call s.link .stop)
            (h.revives.append_of_not_mem (by simp)) ?_
          exact .inr ⟨.stopped, rfl, registered, by simp⟩
      · exact h
  | revive =>
      rw [Session.step, Session.revive]
      split
      · next runs =>
          refine h.grows rfl rfl (Link.log_call s.link .revive) (h.revives.append ?_)
            (.inl ⟨rfl, rfl⟩)
          rintro before after answer split
          obtain rfl : before = [] := by
            cases before with
            | nil => rfl
            | cons e rest => simp at split
          rw [List.append_nil]
          exact h.running_iff.1 runs
      · exact h
  | start =>
      cases runs : s.running with
      | true =>
          rw [Session.step, Session.start, if_pos runs]
          exact h
      | false =>
          obtain ⟨said, log, only, marked⟩ :=
            said_register s.registration (s.maxAttempts - 1) 0 s.link
          have revives : RevivesInSession (s.link.log ++ said) := by
            refine h.revives.append_of_not_mem ?_
            intro answer member
            obtain ⟨_, other⟩ | ⟨_, other⟩ := only _ member
            · cases other
            · cases other
          cases result : (register s.registration (s.maxAttempts - 1) 0 s.link).1 with
          | ok =>
              rw [Session.step, start_of_registered runs result]
              rw [result] at marked
              refine h.grows rfl rfl log revives (.inr ⟨.registered, marked, ?_, by simp⟩)
              simp [h.lastMark_of_stopped runs]
          | error e =>
              rw [Session.step, start_of_refused runs result]
              rw [result] at marked
              exact h.grows rfl rfl log revives (.inl ⟨marked, rfl⟩)

theorem proper_after (driver : δ) (info : FrameworkInfo) (limit : Nat) (steps : List SessionStep) :
    ((new driver info limit).after steps).Proper info (max limit 1) := by
  refine List.foldlRecOn steps step (motive := Proper info (max limit 1))
    (proper_new driver info limit) ?_
  intro s h x _
  exact h.step x

/-! ## The id that is assigned -/

/-- Only to assign an id changes the one that is remembered. -/
theorem frameworkId_step (s : Session δ) (x : SessionStep) :
    (s.step x).frameworkId = x.assigns?.or s.frameworkId := by
  cases x with
  | assign id => rfl
  | stop =>
      rw [step, stop]
      split <;> rfl
  | revive =>
      rw [step, revive]
      split <;> rfl
  | start =>
      rw [step, start]
      split
      · rfl
      · simp only
        split <;> rfl

/-- The id that is remembered is the one assigned most recently, whatever else has happened since.
-/
theorem frameworkId_after (driver : δ) (info : FrameworkInfo) (limit : Nat)
    (steps : List SessionStep) :
    ((new driver info limit).after steps).frameworkId = lastAssigned steps := by
  induction steps using List.reverseRecOn with
  | nil => rfl
  | append_singleton steps x ih =>
      rw [after, List.foldl_concat, ← after, frameworkId_step, ih, lastAssigned, lastAssigned,
        List.filterMap_append]
      cases x <;> simp [SessionStep.assigns?]

/-- In a step, the framework registers with what it would register with before the step. -/
theorem said_step (s : Session δ) (x : SessionStep) :
    ∃ said, (s.step x).link.log = s.link.log ++ said ∧
      ∀ info answer, .call (.register info) answer ∈ said → info = s.registration := by
  have nothing : s.link.log = s.link.log ++ [] := (List.append_nil _).symm
  cases x with
  | assign id => exact ⟨[], nothing, nofun⟩
  | stop =>
      rw [step, stop]
      split
      · exact ⟨_, Link.log_call s.link .stop, by simp⟩
      · exact ⟨[], nothing, nofun⟩
  | revive =>
      rw [step, revive]
      split
      · exact ⟨_, Link.log_call s.link .revive, by simp⟩
      · exact ⟨[], nothing, nofun⟩
  | start =>
      cases runs : s.running with
      | true =>
          rw [step, start, if_pos runs]
          exact ⟨[], nothing, nofun⟩
      | false =>
          obtain ⟨said, log, only, -⟩ :=
            said_register s.registration (s.maxAttempts - 1) 0 s.link
          rw [step, link_start_of_stopped runs]
          refine ⟨said, log, ?_⟩
          intro info answer member
          obtain ⟨_, same⟩ | ⟨_, other⟩ := only _ member
          · cases same
            rfl
          · cases other

/-- The life of a session, however it is led and whatever the cluster answers. Registrations that
succeed and calls to leave alternate, and the session runs from the one to the other; offers are
asked for again only in between. To start a session that runs and to stop or revive one that does
not says nothing and changes nothing. One that does not run is started in as many attempts as it
takes, up to the limit. Whenever the framework registers, it brings along the id that was assigned
most recently. -/
theorem calls_alternate (driver : δ) (info : FrameworkInfo) (limit : Nat)
    (steps : List SessionStep) :
    let s := (new driver info limit).after steps
    let current := { info with id := lastAssigned steps }
    Alternating (marks s.link.log) ∧
    (s.running = true ↔ (marks s.link.log).getLast? = some .registered) ∧
    (∀ before after answer, s.link.log = before ++ .call .revive answer :: after →
      (marks before).getLast? = some .registered) ∧
    (s.running = true → s.start = (.ok (), s) ∧
      ∃ answer, s.stop.link.log = s.link.log ++ [.call .stop answer]) ∧
    (s.running = false → s.stop = s ∧ s.revive = s ∧ s.Starts current (max limit 1)) ∧
    ∀ x, ∃ said, (s.step x).link.log = s.link.log ++ said ∧
      ∀ registered answer, .call (.register registered) answer ∈ said → registered = current := by
  intro s current
  have proper : s.Proper info (max limit 1) := proper_after driver info limit steps
  have brought : s.registration = current := by
    rw [registration, proper.info_eq, frameworkId_after]
  refine ⟨proper.alternating, ?_, ?_, ?_, ?_, ?_⟩
  · rw [proper.running_iff, lastMark_eq_registered_iff]
  · intro before after answer split
    exact lastMark_eq_registered_iff.1 (proper.revives before after answer split)
  · intro runs
    refine ⟨if_pos runs, (s.call .stop).1, ?_⟩
    rw [stop, if_pos runs]
    exact Link.log_call s.link .stop
  · intro off
    have idle : ¬ s.running = true := Bool.eq_false_iff.1 off
    refine ⟨if_neg idle, if_neg idle, ?_⟩
    have starts := starts_of_stopped off (by rw [proper.maxAttempts_eq]; omega)
    rwa [brought, proper.maxAttempts_eq] at starts
  · intro x
    rw [← brought]
    exact s.said_step x

-- Two registrations are refused before one succeeds; after a stop the first one succeeds.
example :
    let s := (new ({ failingRegistrations := 2 } : Recorder) ⟨"", "", "", "", none⟩ 5).after
      [.revive, .start, .start, .revive, .stop, .stop, .start]
    marks s.link.log = [.registered, .stopped, .registered] ∧ s.link.driver.calls.length = 6 := by
  decide

end Session

end OfferDispatch
