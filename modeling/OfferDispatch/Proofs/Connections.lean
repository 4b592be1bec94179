import OfferDispatch.Proofs.SessionLife

/-!
# Starting and stopping at once

Several callers may start and stop one session at the same time. Those who start it wait for each
other: one of them tests whether the session runs, registers in one attempt after another, and once
it has registered marks the session as running. Those who stop it wait for nobody: they take the
mark away if there is one, and only then tell the cluster. In between, anybody else may act.

Once all of them are done, the session is marked as running exactly if the framework is registered,
unless someone who took the mark away was slow to tell the cluster: a caller may have registered
anew in the meantime, and its registration is the one that is ended then.
-/

namespace OfferDispatch

variable {δ : Type}

/-- How far the caller who starts the session has come. -/
inductive Connection.Stage
  /-- It is to make an attempt, and if that fails may make so many further ones. -/
  | registering (info : FrameworkInfo) (further attempt : Nat)
  /-- It has registered, and is to mark the session as running. -/
  | registered

/-- What callers bring about when they start and stop a session. -/
inductive Feat
  | registered
  /-- The mark was taken away. -/
  | lowered
  /-- The cluster was told. -/
  | hungUp
  deriving DecidableEq, Repr

structure Connection (δ : Type) where
  session : Session δ
  /-- There is at most one caller at a time who starts the session. -/
  starting : Option Connection.Stage
  /-- How many callers have taken the mark away and are still to tell the cluster. -/
  stopping : Nat
  /-- What callers have brought about, the newest first. -/
  feats : List Feat

/-- The step of a caller. -/
inductive Connection.Act
  /-- Somebody comes to start the session. -/
  | start
  /-- The caller who starts it does the next thing. -/
  | carryOn
  /-- Somebody comes to stop the session. -/
  | stop
  /-- One of those who stop it tells the cluster. -/
  | hangUp
  deriving DecidableEq, Repr

/-! ## Feats -/

namespace Feat

/-- The feats since the last registration. -/
def latest (fs : List Feat) : List Feat := fs.takeWhile (· ≠ registered)

/-- The feats until the last registration. -/
def earlier (fs : List Feat) : List Feat := fs.dropWhile (· ≠ registered)

/-- There has been a registration, and since then no feat of this kind. -/
def Lasts (f : Feat) (fs : List Feat) : Prop := earlier fs ≠ [] ∧ f ∉ latest fs

/-- Somebody registered while a caller who had taken the mark away was still to tell the cluster,
and nobody has taken it away since. -/
def Overtaken (fs : List Feat) : Prop :=
  Lasts lowered fs ∧ (earlier fs).count hungUp < (earlier fs).count lowered

instance (f : Feat) (fs : List Feat) : Decidable (Lasts f fs) :=
  inferInstanceAs (Decidable (_ ∧ _))

instance (fs : List Feat) : Decidable (Overtaken fs) :=
  inferInstanceAs (Decidable (_ ∧ _))

variable {f g : Feat} {fs : List Feat}

theorem count_latest_add_earlier (f : Feat) (fs : List Feat) :
    (latest fs).count f + (earlier fs).count f = fs.count f := by
  rw [← List.count_append, latest, earlier, List.takeWhile_append_dropWhile]

theorem earlier_cons : earlier (f :: fs) = if f = registered then f :: fs else earlier fs := by
  rw [earlier, List.dropWhile_cons]
  by_cases same : f = registered <;> simp [same, earlier]

theorem lasts_cons : Lasts g (f :: fs) ↔ f = registered ∨ g ≠ f ∧ Lasts g fs := by
  rw [Lasts, Lasts, earlier_cons, latest, List.takeWhile_cons]
  by_cases same : f = registered
  · simp [same]
  · simp [same, latest, and_left_comm]

end Feat

namespace Connection

def new (driver : δ) (info : FrameworkInfo) (attempts : Nat) : Connection δ :=
  ⟨.new driver info attempts, none, 0, []⟩

/-- No caller is on the way. -/
def IsQuiet (c : Connection δ) : Prop := c.starting.isNone = true ∧ c.stopping = 0

instance (c : Connection δ) : Decidable c.IsQuiet := inferInstanceAs (Decidable (_ ∧ _))

/-- Somebody comes to start the session: it waits if another caller is at it, and has nothing to do
if the session runs. -/
def start (c : Connection δ) : Connection δ :=
  if c.starting.isSome || c.session.running then c
  else { c with
    starting := some (.registering c.session.registration (c.session.maxAttempts - 1) 0) }

/-- Somebody comes to stop the session, and takes the mark away if there is one. -/
def stop (c : Connection δ) : Connection δ :=
  if c.session.running then
    { c with
      session := { c.session with running := false }
      stopping := c.stopping + 1
      feats := .lowered :: c.feats }
  else c

variable [ClusterDriver δ]

/-- An attempt to register. After one that fails there is a pause, unless it was the last. -/
def attempt (info : FrameworkInfo) (further attempt : Nat) (c : Connection δ) : Connection δ :=
  let called := c.session.call (.register info)
  match called.1 with
  | .ok () =>
    { c with session := called.2, starting := some .registered, feats := .registered :: c.feats }
  | .error _ =>
    match further with
    | 0 => { c with session := called.2, starting := none }
    | further + 1 =>
      { c with
        session := { called.2 with link := called.2.link.pause attempt }
        starting := some (.registering info further (attempt + 1)) }

/-- The caller who starts the session does the next thing. -/
def carryOn (c : Connection δ) : Connection δ :=
  match c.starting with
  | none => c
  | some (.registering info further attempt) => c.attempt info further attempt
  | some .registered => { c with session := { c.session with running := true }, starting := none }

/-- One of those who stop the session tells the cluster. -/
def hangUp (c : Connection δ) : Connection δ :=
  match c.stopping with
  | 0 => c
  | stopping + 1 =>
    { c with
      session := (c.session.call .stop).2
      stopping := stopping
      feats := .hungUp :: c.feats }

def act (c : Connection δ) : Act → Connection δ
  | .start => c.start
  | .carryOn => c.carryOn
  | .stop => c.stop
  | .hangUp => c.hangUp

def after (c : Connection δ) (acts : List Act) : Connection δ := acts.foldl act c

/-! ## A caller who is left alone -/

section Alone

variable {info : FrameworkInfo} {further first : Nat} {e : DriverError} {c : Connection δ}

theorem attempt_of_accepted (accepted : (c.session.call (.register info)).1 = .ok ()) :
    c.attempt info further first = { c with
      session := (c.session.call (.register info)).2
      starting := some .registered
      feats := .registered :: c.feats } := by
  simp only [attempt, accepted]

theorem attempt_last_of_refused (refused : (c.session.call (.register info)).1 = .error e) :
    c.attempt info 0 first = { c with
      session := (c.session.call (.register info)).2
      starting := none } := by
  simp only [attempt, refused]

theorem attempt_of_refused (refused : (c.session.call (.register info)).1 = .error e) :
    c.attempt info (further + 1) first = { c with
      session := { (c.session.call (.register info)).2 with
        link := (c.session.call (.register info)).2.link.pause first }
      starting := some (.registering info further (first + 1)) } := by
  simp only [attempt, refused]

theorem carryOn_of_registering (registering : c.starting = some (.registering info further first)) :
    c.carryOn = c.attempt info further first := by
  rw [carryOn, registering]

/-- The caller has done so many steps, and is done with what registering in one go amounts to. -/
def CarriesOut (info : FrameworkInfo) (further first : Nat) (c : Connection δ) (steps : Nat) :
    Prop :=
  (carryOn^[steps] c).starting = none ∧ (carryOn^[steps] c).stopping = c.stopping ∧
    (carryOn^[steps] c).session =
      match Session.register info further first c.session.link with
      | (.ok (), link) => { c.session with running := true, link := link }
      | (.error _, link) => { c.session with link := link }

/-- After an attempt that succeeds it takes one more step to mark the session. -/
theorem carriesOut_of_accepted
    (registering : c.starting = some (.registering info further first))
    (accepted : (c.session.call (.register info)).1 = .ok ()) :
    c.CarriesOut info further first 2 := by
  have called : c.session.link.call (.register info) =
    (.ok (), (c.session.link.call (.register info)).2) := Prod.ext accepted rfl
  rw [CarriesOut, Function.iterate_succ_apply, Function.iterate_one,
    carryOn_of_registering registering, attempt_of_accepted accepted]
  cases further with
  | zero =>
      rw [Session.register, called]
      exact ⟨rfl, rfl, rfl⟩
  | succ further =>
      rw [Session.register, called]
      exact ⟨rfl, rfl, rfl⟩

/-- A caller who is left alone registers as often as it takes, and then marks the session. -/
theorem exists_carriesOut (registering : c.starting = some (.registering info further first)) :
    ∃ steps, c.CarriesOut info further first steps := by
  induction further generalizing first c with
  | zero =>
      cases answered : (c.session.call (.register info)).1 with
      | ok => exact ⟨2, carriesOut_of_accepted registering answered⟩
      | error e =>
          have called : c.session.link.call (.register info) =
            (.error e, (c.session.link.call (.register info)).2) := Prod.ext answered rfl
          refine ⟨1, ?_⟩
          rw [CarriesOut, Function.iterate_one, carryOn_of_registering registering,
            attempt_last_of_refused answered, Session.register, called]
          exact ⟨rfl, rfl, rfl⟩
  | succ further ih =>
      cases answered : (c.session.call (.register info)).1 with
      | ok => exact ⟨2, carriesOut_of_accepted registering answered⟩
      | error e =>
          have called : c.session.link.call (.register info) =
            (.error e, (c.session.link.call (.register info)).2) := Prod.ext answered rfl
          have again : c.attempt info (further + 1) first = _ := attempt_of_refused answered
          obtain ⟨steps, done, others, led⟩ := ih (c := c.attempt info (further + 1) first)
            (by rw [again])
          refine ⟨steps + 1, ?_⟩
          rw [CarriesOut, Function.iterate_succ_apply, carryOn_of_registering registering,
            Session.register, called]
          refine ⟨done, others.trans (by rw [again]), led.trans ?_⟩
          rw [again]
          rfl

/-- A caller who starts the session and is left alone has started it in one go. -/
theorem start_alone (nobody : c.starting = none) :
    ∃ steps, (carryOn^[steps] c.start).starting = none ∧
      (carryOn^[steps] c.start).stopping = c.stopping ∧
      (carryOn^[steps] c.start).session = c.session.start.2 := by
  cases runs : c.session.running with
  | true =>
      refine ⟨0, ?_⟩
      rw [Function.iterate_zero_apply, start, nobody, runs, Session.start, runs]
      exact ⟨nobody, rfl, rfl⟩
  | false =>
      have came : c.start = { c with
          starting := some (.registering c.session.registration (c.session.maxAttempts - 1) 0) } := by
        rw [start, nobody, runs]
        rfl
      obtain ⟨steps, done, others, led⟩ := exists_carriesOut (c := c.start) (by rw [came])
      refine ⟨steps, done, others.trans (by rw [came]), led.trans ?_⟩
      rw [came]
      cases result : Session.register c.session.registration (c.session.maxAttempts - 1) 0
        c.session.link with
      | mk answer link =>
          cases answer with
          | ok => rw [Session.start_of_registered runs (by rw [result]), result]
          | error e => rw [Session.start_of_refused runs (congrArg Prod.fst result), result]

/-- A caller who stops the session and is left alone has stopped it in one go. -/
theorem stop_alone (nobody : c.stopping = 0) :
    c.stop.hangUp.starting = c.starting ∧ c.stop.hangUp.stopping = 0 ∧
      c.stop.hangUp.session = c.session.stop := by
  cases runs : c.session.running with
  | true =>
      rw [stop, runs, Session.stop, runs]
      exact ⟨rfl, nobody, rfl⟩
  | false =>
      rw [stop, runs, Session.stop, runs]
      rw [if_neg Bool.false_ne_true, hangUp, nobody]
      exact ⟨rfl, nobody, rfl⟩

end Alone

/-! ## The mark and the registration -/

/-- How the session stands with the cluster, whoever is on the way. -/
structure Coherent (c : Connection δ) : Prop where
  /-- Nobody starts a session that runs. -/
  idle : c.starting.isSome = true → c.session.running = false
  /-- Every caller who took the mark away tells the cluster. -/
  told : c.stopping + c.feats.count .hungUp = c.feats.count .lowered
  /-- The framework is registered since the last registration, unless the cluster was told. -/
  linked : lastMark c.session.link.log = .registered ↔ Feat.Lasts .hungUp c.feats
  /-- The session is marked, or to be marked, since the last registration unless somebody took the
  mark away. -/
  marked : c.session.running = true ∨ c.starting = some .registered ↔ Feat.Lasts .lowered c.feats
  /-- Until the last registration the cluster was not told more often than the mark was taken. -/
  ordered : (Feat.earlier c.feats).count .hungUp ≤ (Feat.earlier c.feats).count .lowered

omit [ClusterDriver δ] in
theorem coherent_new (driver : δ) (info : FrameworkInfo) (attempts : Nat) :
    (new driver info attempts).Coherent where
  idle := nofun
  told := rfl
  linked := ⟨nofun, fun lasts => absurd rfl lasts.1⟩
  marked := ⟨nofun, fun lasts => absurd rfl lasts.1⟩
  ordered := Nat.le_refl _

variable {c : Connection δ}

omit [ClusterDriver δ] in
/-- While the session neither runs nor is about to, a caller who brings about nothing leaves it as
it stands. -/
theorem Coherent.of_same {d : Connection δ} (h : c.Coherent)
    (down : c.session.running = false ∧ c.starting ≠ some .registered)
    (still : d.session.running = false ∧ d.starting ≠ some .registered)
    (same : d.feats = c.feats ∧ d.stopping = c.stopping)
    (mark : lastMark d.session.link.log = lastMark c.session.link.log) : d.Coherent := by
  obtain ⟨feats, stopping⟩ := same
  have unmarked := h.marked
  refine ⟨fun _ => still.1, ?_, ?_, ?_, ?_⟩
  · rw [feats, stopping]
    exact h.told
  · rw [feats, mark]
    exact h.linked
  · simpa [feats, down, still] using unmarked
  · rw [feats]
    exact h.ordered

omit [ClusterDriver δ] in
theorem Coherent.start (h : c.Coherent) : c.start.Coherent := by
  rw [Connection.start]
  split
  · exact h
  · next free =>
      obtain ⟨nobody, off⟩ : c.starting = none ∧ c.session.running = false := by simpa using free
      exact h.of_same ⟨off, by simp [nobody]⟩ ⟨off, nofun⟩ ⟨rfl, rfl⟩ rfl

omit [ClusterDriver δ] in
theorem Coherent.stop (h : c.Coherent) : c.stop.Coherent := by
  rw [Connection.stop]
  split
  · next runs =>
      have nobody : c.starting = none := by
        refine Option.not_isSome_iff_eq_none.1 fun somebody => ?_
        rw [h.idle somebody] at runs
        cases runs
      refine ⟨fun _ => rfl, ?_, ?_, ?_, ?_⟩
      · have told := h.told
        change c.stopping + 1 + _ = _
        rw [List.count_cons_of_ne (by decide), List.count_cons_self]
        omega
      · simpa [Feat.lasts_cons] using h.linked
      · simp [Feat.lasts_cons, nobody]
      · simpa [Feat.earlier_cons] using h.ordered
  · exact h

theorem Coherent.hangUp (h : c.Coherent) : c.hangUp.Coherent := by
  rw [Connection.hangUp]
  split
  · exact h
  · next stopping more =>
      refine ⟨h.idle, ?_, ?_, ?_, ?_⟩
      · have told := h.told
        change stopping + _ = _
        rw [List.count_cons_self, List.count_cons_of_ne (by decide)]
        omega
      · have left : lastMark (c.session.call .stop).2.link.log = .stopped :=
          lastMark_append_of_marks rfl
        simp [left, Feat.lasts_cons]
      · exact h.marked.trans (by simp [Feat.lasts_cons])
      · simpa [Feat.earlier_cons] using h.ordered

/-- An attempt brings about a registration or nothing. -/
theorem Coherent.attempt (h : c.Coherent) {info : FrameworkInfo} {further first : Nat}
    (registering : c.starting = some (.registering info further first)) :
    (c.attempt info further first).Coherent := by
  have off : c.session.running = false := h.idle (by simp [registering])
  have unmarked : c.starting ≠ some .registered := by simp [registering]
  cases answered : (c.session.call (.register info)).1 with
  | ok =>
      have mark : marks [.call (.register info) (c.session.call (.register info)).1] =
          [.registered] := by
        rw [answered]
        rfl
      have joined : lastMark (c.session.call (.register info)).2.link.log = .registered :=
        lastMark_append_of_marks mark
      rw [attempt_of_accepted answered]
      refine ⟨fun _ => off, h.told, ?_, ?_, ?_⟩
      · simp [joined, Feat.lasts_cons]
      · simp [Feat.lasts_cons]
      · have told := h.told
        rw [Feat.earlier_cons, if_pos rfl, List.count_cons_of_ne (by decide),
          List.count_cons_of_ne (by decide)]
        omega
  | error e =>
      have silent : marks [.call (.register info) (c.session.call (.register info)).1] = [] := by
        rw [answered]
        rfl
      have same : lastMark (c.session.call (.register info)).2.link.log =
          lastMark c.session.link.log := lastMark_append_of_none silent
      cases further with
      | zero =>
          rw [attempt_last_of_refused answered]
          exact h.of_same ⟨off, unmarked⟩ ⟨off, nofun⟩ ⟨rfl, rfl⟩ same
      | succ further =>
          rw [attempt_of_refused answered]
          refine h.of_same ⟨off, unmarked⟩ ⟨off, by simp⟩ ⟨rfl, rfl⟩ ?_
          exact (lastMark_append_of_none rfl).trans same

theorem Coherent.carryOn (h : c.Coherent) : c.carryOn.Coherent := by
  rw [Connection.carryOn]
  split
  · exact h
  · next info further first registering => exact h.attempt registering
  · next registered =>
      refine ⟨nofun, h.told, h.linked, ?_, h.ordered⟩
      simpa [registered] using h.marked

/-- Whoever acts, the session goes on to stand with the cluster in this way. -/
theorem Coherent.act (h : c.Coherent) : ∀ a : Act, (c.act a).Coherent
  | .start => h.start
  | .carryOn => h.carryOn
  | .stop => h.stop
  | .hangUp => h.hangUp

theorem coherent_after (driver : δ) (info : FrameworkInfo) (attempts : Nat) (acts : List Act) :
    ((new driver info attempts).after acts).Coherent := by
  refine List.foldlRecOn acts Connection.act (motive := Coherent)
    (coherent_new driver info attempts) ?_
  intro c h a _
  exact h.act a

omit [ClusterDriver δ] in
/-- Once everybody is done, the cluster was told as often as the mark was taken away. So a mark that
lasts is one of a registration that lasts, unless a caller who had taken away an earlier mark has
told the cluster only after the registration. -/
theorem Coherent.lasts_iff (h : c.Coherent) (quiet : c.IsQuiet) :
    Feat.Lasts .lowered c.feats ↔ Feat.Lasts .hungUp c.feats ∨ Feat.Overtaken c.feats := by
  have told := h.told
  have ordered := h.ordered
  have lowered := Feat.count_latest_add_earlier .lowered c.feats
  have hungUp := Feat.count_latest_add_earlier .hungUp c.feats
  rw [quiet.2, Nat.zero_add] at told
  simp only [Feat.Overtaken, Feat.Lasts, ← List.count_eq_zero]
  constructor
  · rintro ⟨registered, none⟩
    by_cases late : (Feat.earlier c.feats).count .hungUp < (Feat.earlier c.feats).count .lowered
    · exact .inr ⟨⟨registered, none⟩, late⟩
    · exact .inl ⟨registered, by omega⟩
  · rintro (⟨registered, none⟩ | ⟨lasts, -⟩)
    · exact ⟨registered, by omega⟩
    · exact lasts

omit [ClusterDriver δ] in
/-- A mark that has overtaken a call to leave stands for a registration that was ended. -/
theorem Coherent.not_lasts_of_overtaken (h : c.Coherent) (quiet : c.IsQuiet)
    (overtaken : Feat.Overtaken c.feats) : ¬ Feat.Lasts .hungUp c.feats := by
  rintro ⟨-, none⟩
  have told := h.told
  have lowered := Feat.count_latest_add_earlier .lowered c.feats
  have hungUp := Feat.count_latest_add_earlier .hungUp c.feats
  have late := overtaken.2
  rw [quiet.2, Nat.zero_add] at told
  rw [← List.count_eq_zero] at none
  omega

/-- Once all of those who start and stop a session are done, however their steps came to be mixed
and whatever the cluster answered: a framework that is registered has a session that runs, and one
whose session runs is registered, unless its registration has overtaken a call to leave. -/
theorem runs_iff_registered_iff_not_overtaken (driver : δ) (info : FrameworkInfo) (attempts : Nat)
    (acts : List Act) (quiet : ((new driver info attempts).after acts).IsQuiet) :
    let c := (new driver info attempts).after acts
    (lastMark c.session.link.log = .registered → c.session.running = true) ∧
    ((c.session.running = true ↔ lastMark c.session.link.log = .registered) ↔
      ¬ Feat.Overtaken c.feats) := by
  intro c
  have h : c.Coherent := coherent_after driver info attempts acts
  have runs : c.session.running = true ↔
      lastMark c.session.link.log = .registered ∨ Feat.Overtaken c.feats := by
    rw [h.linked, ← h.lasts_iff quiet, ← h.marked, Option.isNone_iff_eq_none.1 quiet.1]
    simp
  refine ⟨fun registered => runs.2 (.inl registered), ?_⟩
  constructor
  · intro same overtaken
    exact h.not_lasts_of_overtaken quiet overtaken (h.linked.1 (same.1 (runs.2 (.inr overtaken))))
  · intro onTime
    rw [runs, or_iff_left onTime]

end Connection

namespace Plain

/-- One caller stops the session while another one starts it anew: the mark is taken away before the
second registration, and the cluster is told to end it. -/
def overtaking : List Connection.Act :=
  [.start, .carryOn, .carryOn, .stop, .start, .carryOn, .carryOn, .hangUp]

/-- The session is marked as running in the end, and nobody is registered. -/
theorem runs_unregistered :
    let c := (Connection.new ({} : Recorder) ⟨"", "", "", "", none⟩ 1).after overtaking
    c.IsQuiet ∧ c.session.running = true ∧
      ¬ (c.session.running = true ↔ lastMark c.session.link.log = .registered) := by
  refine ⟨by decide, by decide, ?_⟩
  rw [(Connection.runs_iff_registered_iff_not_overtaken ({} : Recorder) ⟨"", "", "", "", none⟩ 1
    overtaking (by decide)).2]
  decide

end Plain

end OfferDispatch
