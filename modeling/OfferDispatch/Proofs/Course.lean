import Mathlib.Data.List.Induction
import OfferDispatch.Cluster.Recorder
import OfferDispatch.Proofs.Frame
import OfferDispatch.Scheduler.Operation

/-!
# The course of a scheduler

A scheduler is asked one thing after another, and each answer is a run of actions. A chronicle is a
run that also notes every notice as it comes about: some are told at once, and those of a
supervision wait until they are released. Nothing that has come about gets lost on the way, so the
notices of a chronicle are those that were told together with those that still wait.

A history strings such runs together. What an action does to the scheduler carries over to whole
runs through one induction, over the actions and all that follows from them.
-/

namespace OfferDispatch

/-! ## Ever since -/

section

variable {σ ε : Type}

/-- One of the events has begun something, and each later one has kept it. -/
def Since (step : σ → ε → σ) (begins keeps : σ → ε → Prop) (s : σ) (events : List ε) : Prop :=
  ∃ before e later, events = before ++ e :: later ∧ begins (before.foldl step s) e ∧
    ∀ part f, part ++ [f] <+: later → keeps ((before ++ e :: part).foldl step s) f

variable {step : σ → ε → σ} {begins keeps : σ → ε → Prop} {s : σ} {events : List ε} {e : ε}

theorem not_since_nil : ¬ Since step begins keeps s [] := by
  rintro ⟨before, e, later, parts, -⟩
  simp at parts

/-- After one more event it is kept, or it has begun. -/
theorem since_concat_iff :
    Since step begins keeps s (events ++ [e]) ↔
      Since step begins keeps s events ∧ keeps (events.foldl step s) e ∨
        begins (events.foldl step s) e := by
  constructor
  · rintro ⟨before, first, later, parts, begun, kept⟩
    cases later using List.reverseRecOn with
    | nil =>
        obtain ⟨rfl, rfl⟩ := List.append_singleton_inj.1 parts
        exact .inr begun
    | append_singleton later last =>
        rw [← List.cons_append, ← List.append_assoc] at parts
        obtain ⟨rfl, rfl⟩ := List.append_singleton_inj.1 parts
        refine .inl ⟨⟨before, first, later, rfl, begun, ?_⟩, kept _ _ List.prefix_rfl⟩
        intro part f h
        exact kept part f (h.trans (List.prefix_append _ _))
  · rintro (⟨⟨before, first, later, rfl, begun, kept⟩, last⟩ | begun)
    · refine ⟨before, first, later ++ [e], by simp, begun, ?_⟩
      intro part f h
      obtain whole | shorter := List.prefix_concat_iff.1 h
      · obtain ⟨rfl, rfl⟩ := List.append_singleton_inj.1 whole
        exact last
      · exact kept part f shorter
    · refine ⟨events, e, [], rfl, begun, ?_⟩
      intro part f h
      simp at h

end

variable {δ κ : Type}

/-! ## Notices come about -/

/-- The notices that an agenda is going to tell. -/
def tells (agenda : List (Action κ)) : List (Notice κ) :=
  agenda.filterMap fun
    | .tell notice => some notice
    | _ => none

@[simp] theorem tells_nil : tells ([] : List (Action κ)) = [] := rfl

@[simp] theorem tells_append (first second : List (Action κ)) :
    tells (first ++ second) = tells first ++ tells second := by
  simp [tells]

@[simp] theorem tells_tell_cons (notice : Notice κ) (rest : List (Action κ)) :
    tells (.tell notice :: rest) = notice :: tells rest := rfl

@[simp] theorem tells_answer_cons (reply : Reply) (rest : List (Action κ)) :
    tells (.answer reply :: rest) = tells rest := rfl

@[simp] theorem tells_map_tell (notices : List (Notice κ)) :
    tells (notices.map .tell) = notices := by
  induction notices with
  | nil => rfl
  | cons notice rest ih => simp [ih]

@[simp] theorem tells_map_decline (declines : List (OfferId × Duration)) :
    tells (declines.map fun d => (.decline d.1 d.2 : Action κ)) = [] := by
  simp [tells]

@[simp] theorem tells_afterEnd (s : Scheduler δ κ) : tells s.afterEnd = [] := by
  rw [Scheduler.afterEnd]
  split <;> rfl

@[simp] theorem tells_placed (p : Placement δ κ) : tells (Scheduler.placed p).1 = p.notices := by
  simp [Scheduler.placed]

variable [ClusterDriver δ]

namespace Scheduler

/-- The notices that come about in an action: those that it leaves to be told and those that it
defers. What is released has come about before. -/
def created (env : Surroundings) (s : Scheduler δ κ) : Action κ → List (Notice κ)
  | .release => []
  | action =>
    tells (s.perform env action).1 ++ (s.perform env action).2.deferred.drop s.deferred.length

theorem created_of_ne {env : Surroundings} {s : Scheduler δ κ} {action : Action κ}
    (other : action ≠ .release) :
    s.created env action =
      tells (s.perform env action).1 ++
        (s.perform env action).2.deferred.drop s.deferred.length := by
  cases action with
  | release => exact absurd rfl other
  | _ => rfl

theorem created_of_deferred {env : Surroundings} {s : Scheduler δ κ} {action : Action κ}
    (other : action ≠ .release) (same : (s.perform env action).2.deferred = s.deferred) :
    s.created env action = tells (s.perform env action).1 := by
  rw [created_of_ne other, same, List.drop_length, List.append_nil]

/-- What an action leaves to be told or deferred is what was deferred before and what has come
about. -/
theorem countP_created (env : Surroundings) (s : Scheduler δ κ) (action : Action κ)
    (test : Notice κ → Bool) :
    (tells (s.perform env action).1).countP test +
        (s.perform env action).2.deferred.countP test =
      s.deferred.countP test + (s.created env action).countP test := by
  by_cases release : action = .release
  · rw [release]
    simp [created, perform]
  · obtain ⟨more, added⟩ := deferred_prefix_perform env s release
    rw [created_of_ne release, ← added, List.drop_left, List.countP_append, List.countP_append]
    omega

end Scheduler

/-- A run that notes the notices as they come about. -/
structure Chronicle (δ κ : Type) extends Run δ κ where
  created : List (Notice κ) := []

namespace Chronicle

/-- Does an action and all that follows from it, so many levels deep. -/
def step (env : Surroundings) : Nat → Chronicle δ κ → Action κ → Chronicle δ κ
  | _, c, .tell notice => { c with told := c.told ++ [notice] }
  | _, c, .answer reply => { c with reply := some reply }
  | 0, c, _ => c
  | depth + 1, c, action =>
    let done := c.scheduler.perform env action
    done.1.foldl (step env depth)
      { c with scheduler := done.2, created := c.created ++ c.scheduler.created env action }

/-- An invariant carries over from actions to all that follows from them. `allowed` singles out the
actions that keep the invariant; what follows from an allowed action has to be allowed again. -/
theorem foldl_step_preserves {env : Surroundings} {allowed : Action κ → Prop}
    {P : Scheduler δ κ → List (Notice κ) → Prop}
    (performed : ∀ s created action, allowed action → P s created →
      P (s.perform env action).2 (created ++ s.created env action))
    (follows : ∀ s : Scheduler δ κ, ∀ action, allowed action →
      ∀ next ∈ (s.perform env action).1, allowed next)
    (depth : Nat) {agenda : List (Action κ)} {c : Chronicle δ κ}
    (all : ∀ action ∈ agenda, allowed action) (h : P c.scheduler c.created) :
    P (agenda.foldl (step env depth) c).scheduler (agenda.foldl (step env depth) c).created := by
  induction depth generalizing agenda c with
  | zero =>
      refine List.foldlRecOn agenda (step env 0)
        (motive := fun c => P c.scheduler c.created) h ?_
      intro c hc action _
      cases action <;> exact hc
  | succ depth ih =>
      refine List.foldlRecOn agenda (step env (depth + 1))
        (motive := fun c => P c.scheduler c.created) h ?_
      intro c hc action member
      have ok := all action member
      cases action with
      | tell | answer => exact hc
      | _ => exact ih (follows c.scheduler _ ok) (performed c.scheduler c.created _ ok hc)

/-- From `c` to `d`, the notices that came about and those in `told` are those that are told or
deferred in addition. -/
def Balances (test : Notice κ → Bool) (c d : Chronicle δ κ) (told : List (Notice κ)) : Prop :=
  d.told.countP test + d.scheduler.deferred.countP test + c.created.countP test =
    c.told.countP test + c.scheduler.deferred.countP test + told.countP test +
      d.created.countP test

omit [ClusterDriver δ] in
theorem Balances.trans {test : Notice κ → Bool} {c d e : Chronicle δ κ}
    {first second : List (Notice κ)} (left : Balances test c d first)
    (right : Balances test d e second) : Balances test c e (first ++ second) := by
  rw [Balances] at *
  rw [List.countP_append]
  omega

theorem balances_foldl_of {env : Surroundings} {test : Notice κ → Bool} {depth : Nat}
    (single : ∀ (c : Chronicle δ κ) (action : Action κ),
      Balances test c (step env depth c action) (tells [action]))
    (agenda : List (Action κ)) (c : Chronicle δ κ) :
    Balances test c (agenda.foldl (step env depth) c) (tells agenda) := by
  induction agenda generalizing c with
  | nil => simp [Balances]
  | cons first rest ih =>
      rw [List.foldl_cons, show tells (first :: rest) = tells [first] ++ tells rest by
        rw [← tells_append, List.singleton_append]]
      exact (single c first).trans (ih _)

theorem balances_step (env : Surroundings) (test : Notice κ → Bool) (depth : Nat)
    (c : Chronicle δ κ) (action : Action κ) :
    Balances test c (step env depth c action) (tells [action]) := by
  induction depth generalizing c action with
  | zero => cases action <;> simp +arith [Balances, step, tells]
  | succ depth ih =>
      have acts (done : step env (depth + 1) c action =
          (c.scheduler.perform env action).1.foldl (step env depth)
            { c with
              scheduler := (c.scheduler.perform env action).2
              created := c.created ++ c.scheduler.created env action })
          (silent : tells [action] = []) :
          Balances test c (step env (depth + 1) c action) (tells [action]) := by
        have after := balances_foldl_of ih (c.scheduler.perform env action).1
          { c with
            scheduler := (c.scheduler.perform env action).2
            created := c.created ++ c.scheduler.created env action }
        have now := c.scheduler.countP_created env action test
        rw [done, silent]
        simp only [Balances, List.countP_append, List.countP_nil] at after ⊢
        omega
      cases action with
      | tell | answer => simp +arith [Balances, step, tells]
      | _ => exact acts rfl rfl

theorem toRun_foldl_step_of (env : Surroundings) (depth : Nat)
    (single : ∀ (c : Chronicle δ κ) (action : Action κ),
      (step env depth c action).toRun = Run.step env depth c.toRun action)
    (agenda : List (Action κ)) (c : Chronicle δ κ) :
    (agenda.foldl (step env depth) c).toRun = agenda.foldl (Run.step env depth) c.toRun := by
  induction agenda generalizing c with
  | nil => rfl
  | cons first rest ih => rw [List.foldl_cons, List.foldl_cons, ih, single]

/-- Noting what comes about does not change the run. -/
theorem toRun_step (env : Surroundings) (depth : Nat) (c : Chronicle δ κ) (action : Action κ) :
    (step env depth c action).toRun = Run.step env depth c.toRun action := by
  induction depth generalizing c action with
  | zero => cases action <;> rfl
  | succ depth ih =>
      cases action with
      | tell | answer => rfl
      | _ => exact toRun_foldl_step_of env depth ih _ _

theorem toRun_foldl_step (env : Surroundings) (depth : Nat) (agenda : List (Action κ))
    (c : Chronicle δ κ) :
    (agenda.foldl (step env depth) c).toRun = agenda.foldl (Run.step env depth) c.toRun :=
  toRun_foldl_step_of env depth (toRun_step env depth) agenda c

end Chronicle

namespace Scheduler

/-- Runs an operation and notes the notices as they come about. -/
def chronicle (env : Surroundings) (s : Scheduler δ κ) (o : Operation κ) : Chronicle δ κ :=
  (o.agenda s.settings).foldl (Chronicle.step env depth) { scheduler := s }

/-- The notices that come about in a run are told in it or deferred. -/
theorem balances_chronicle (env : Surroundings) (test : Notice κ → Bool) (s : Scheduler δ κ)
    (o : Operation κ) :
    Chronicle.Balances test { scheduler := s } (s.chronicle env o)
      (tells (o.agenda s.settings)) :=
  Chronicle.balances_foldl_of (Chronicle.balances_step env test depth) _ _

theorem toRun_chronicle (env : Surroundings) (s : Scheduler δ κ) (o : Operation κ) :
    (s.chronicle env o).toRun = s.run env o :=
  Chronicle.toRun_foldl_step env depth _ _

@[simp] theorem scheduler_chronicle (env : Surroundings) (s : Scheduler δ κ) (o : Operation κ) :
    (s.chronicle env o).scheduler = (s.run env o).scheduler :=
  congrArg Run.scheduler (s.toRun_chronicle env o)

@[simp] theorem told_chronicle (env : Surroundings) (s : Scheduler δ κ) (o : Operation κ) :
    (s.chronicle env o).told = (s.run env o).told :=
  congrArg Run.told (s.toRun_chronicle env o)

/-- What allowed actions keep is kept by an operation that begins with such actions. -/
theorem run_preserves_of_allowed {env : Surroundings} {allowed : Action κ → Prop}
    {P : Scheduler δ κ → Prop}
    (performed : ∀ s action, allowed action → P s → P (s.perform env action).2)
    (follows : ∀ s : Scheduler δ κ, ∀ action, allowed action →
      ∀ next ∈ (s.perform env action).1, allowed next)
    {s : Scheduler δ κ} {o : Operation κ}
    (agenda : ∀ action ∈ o.agenda s.settings, allowed action) (h : P s) :
    P (s.run env o).scheduler := by
  have whole := Chronicle.foldl_step_preserves (P := fun t _ => P t)
    (fun t _ action => performed t action) follows depth agenda (c := { scheduler := s }) h
  rw [← chronicle, scheduler_chronicle] at whole
  exact whole

/-- What every action keeps is kept by every operation. -/
theorem run_preserves {env : Surroundings} {P : Scheduler δ κ → Prop}
    (performed : ∀ s action, P s → P (s.perform env action).2) {s : Scheduler δ κ}
    (o : Operation κ) (h : P s) : P (s.run env o).scheduler := by
  have all : ∀ action ∈ o.agenda s.settings, (fun _ : Action κ => True) action :=
    fun _ _ => trivial
  exact run_preserves_of_allowed (fun s action _ => performed s action)
    (fun _ _ _ _ _ => trivial) all h

/-- No operation changes the settings. -/
@[simp] theorem settings_run (env : Surroundings) (s : Scheduler δ κ) (o : Operation κ) :
    (s.run env o).scheduler.settings = s.settings :=
  run_preserves (P := fun t => t.settings = s.settings)
    (fun t action same => (settings_perform env t action).trans same) o rfl

end Scheduler

/-! ## Histories -/

/-- Something that a scheduler is asked, and what it reads of the world while it does it. -/
structure Demand (κ : Type) where
  env : Surroundings
  operation : Operation κ

/-- What has become of a scheduler that was asked one thing after another. -/
structure History (δ κ : Type) where
  scheduler : Scheduler δ κ
  /-- What hosts were told. -/
  told : List (Notice κ) := []
  /-- The notices that came about, the oldest first. -/
  created : List (Notice κ) := []
  /-- What the callers got, one after another. -/
  replies : List (Option Reply) := []

namespace History

def ask (h : History δ κ) (d : Demand κ) : History δ κ :=
  let run := h.scheduler.run d.env d.operation
  { scheduler := run.scheduler
    told := h.told ++ run.told
    created := h.created ++ (h.scheduler.chronicle d.env d.operation).created
    replies := h.replies ++ [run.reply] }

end History

/-- The history of a scheduler that is asked one thing after another. -/
def Scheduler.after (s : Scheduler δ κ) (demands : List (Demand κ)) : History δ κ :=
  demands.foldl History.ask { scheduler := s }

@[simp] theorem Scheduler.after_nil (s : Scheduler δ κ) : s.after [] = { scheduler := s } := rfl

@[simp] theorem Scheduler.after_concat (s : Scheduler δ κ) (demands : List (Demand κ))
    (d : Demand κ) : s.after (demands ++ [d]) = (s.after demands).ask d := by
  simp [after]

/-- No operation begins with telling something. -/
theorem tells_agenda (settings : SchedulerSettings) (o : Operation κ) :
    tells (o.agenda settings) = [] := by
  cases o with
  | offers delivered => cases h : settings.multiThreaded <;> simp [Operation.agenda, tells, h]
  | _ => rfl

@[simp] theorem Scheduler.settings_after (s : Scheduler δ κ) (demands : List (Demand κ)) :
    (s.after demands).scheduler.settings = s.settings := by
  induction demands using List.reverseRecOn with
  | nil => rfl
  | append_singleton demands d ih => rw [after_concat, History.ask, settings_run, ih]

namespace History

/-- Whatever has come about has been told or is deferred, and nothing else has. -/
theorem countP_created (s : Scheduler δ κ) (none : s.deferred = []) (demands : List (Demand κ))
    (test : Notice κ → Bool) :
    (s.after demands).created.countP test =
      (s.after demands).told.countP test + (s.after demands).scheduler.deferred.countP test := by
  induction demands using List.reverseRecOn with
  | nil => simp [none]
  | append_singleton demands d ih =>
      have balance := (s.after demands).scheduler.balances_chronicle d.env test d.operation
      simp only [tells_agenda, Chronicle.Balances, Scheduler.scheduler_chronicle,
        Scheduler.told_chronicle, List.countP_nil] at balance
      simp only [Scheduler.after_concat, ask, List.countP_append]
      omega

end History

/-! ## A plain scheduler -/

namespace Plain

/-- A quiet moment with a single node. -/
def moment : Surroundings := ⟨⟨0, 0⟩, 1⟩

def worker (name : String) : WorkerSpec Float where
  name := ⟨name⟩
  label := ""
  cpus := 1.0
  memory := 512
  disk := 0.0
  selector := .any
  jvmArguments := ""
  agentArguments := ""
  secret := none
  style := .linux
  files := []
  container := none

/-- An offer with room for such a worker. -/
def offer (id : String) : Offer Float where
  id := ⟨id⟩
  agent := ⟨"agent"⟩
  hostname := "host"
  resources := [⟨ResourceName.cpus, anyRole, .scalar 4.0⟩,
    ⟨ResourceName.mem, anyRole, .scalar 4096.0⟩]
  attributes := []
  maintenance := none

/-- A session whose driver refuses nothing. -/
def session : Session Recorder := .new {} ⟨"", "", "", "", none⟩ 1

def scheduler : Scheduler Recorder κ := .new {} session

end Plain

end OfferDispatch
