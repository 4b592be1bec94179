import Mathlib.Logic.Relation
import OfferDispatch.Proofs.Course

/-!
# Agendas, one action at a time

A run does all that follows from an action before it goes on with the agenda. So what is left to do
at any point of it is a list again: what follows from the action that was done last, and then what
was left before. Doing the first action of such a list is one step, and a run is a sequence of steps
that ends with nothing left to do.

Steps show what a run passes through on its way, and between two of them somebody else may act.
-/

namespace OfferDispatch

variable {δ κ : Type}

/-- No action is higher than three. -/
theorem Action.height_lt_depth (action : Action κ) : action.height < Scheduler.depth := by
  cases action <;> simp [Action.height, Scheduler.depth]

/-! ## What single actions keep -/

namespace Run

variable [ClusterDriver δ]

/-- The run when an action is done, and nothing yet of what follows from it. -/
def go (env : Surroundings) (run : Run δ κ) : Action κ → Run δ κ
  | .tell notice => { run with told := run.told ++ [notice] }
  | .answer reply => { run with reply := some reply }
  | action => { run with scheduler := (run.scheduler.perform env action).2 }

theorem scheduler_go (env : Surroundings) (run : Run δ κ) (action : Action κ) :
    (run.go env action).scheduler = (run.scheduler.perform env action).2 := by
  cases action <;> rfl

variable {env : Surroundings} {P : Run δ κ → List (Action κ) → Prop} {run : Run δ κ}
  {rest : List (Action κ)}

omit [ClusterDriver δ] in
/-- If each action is done to the end before the others, so is an agenda. -/
theorem foldl_keeps {step : Run δ κ → Action κ → Run δ κ} {allowed : Action κ → Prop}
    (single : ∀ {run action rest}, allowed action → P run (action :: rest) → P (step run action) rest)
    {agenda : List (Action κ)} (all : ∀ action ∈ agenda, allowed action)
    (h : P run (agenda ++ rest)) : P (agenda.foldl step run) rest := by
  induction agenda generalizing run with
  | nil => exact h
  | cons action agenda ih =>
      obtain ⟨first, others⟩ := List.forall_mem_cons.1 all
      exact ih others (single first h)

/-- What is kept whenever an action is done and what follows from it is put before the others, is
kept when it is done to the end. -/
theorem step_keeps
    (next : ∀ {run action rest}, P run (action :: rest) →
      P (run.go env action) ((run.scheduler.perform env action).1 ++ rest))
    {depth : Nat} {action : Action κ} (low : action.height < depth) (h : P run (action :: rest)) :
    P (Run.step env depth run action) rest := by
  induction depth generalizing run action rest with
  | zero => exact absurd low (Nat.not_lt_zero _)
  | succ depth ih =>
      have first := next h
      have lower : ∀ next ∈ (run.scheduler.perform env action).1, next.height < depth := by
        intro next follows
        have descends := Scheduler.height_perform follows
        omega
      have acts : P ((run.scheduler.perform env action).1.foldl (Run.step env depth)
          (run.go env action)) rest :=
        foldl_keeps (fun {_ action _} (low : action.height < depth) h => ih low h) lower first
      cases action with
      | tell | answer => exact first
      | _ => exact acts

/-- What is kept whenever an action is done holds when an agenda has been carried out. -/
theorem carryOut_keeps {s : Scheduler δ κ} {agenda : List (Action κ)}
    (next : ∀ {run action rest}, P run (action :: rest) →
      P (run.go env action) ((run.scheduler.perform env action).1 ++ rest))
    (start : P { scheduler := s } agenda) : P (s.carryOut env agenda) [] := by
  rw [← List.append_nil agenda] at start
  exact foldl_keeps (fun {_ action _} (low : action.height < Scheduler.depth) => step_keeps next low)
    (fun action _ => action.height_lt_depth) start

end Run

/-! ## Work that is left -/

/-- A scheduler, and what a caller has left to do with it. -/
structure Work (δ κ : Type) where
  scheduler : Scheduler δ κ
  left : List (Action κ)

namespace Work

variable [ClusterDriver δ]

/-- The first action that is left is done, and what follows from it is done before the others. -/
def next (env : Surroundings) (w : Work δ κ) : Work δ κ :=
  match w.left with
  | [] => w
  | action :: rest =>
    let done := w.scheduler.perform env action
    ⟨done.2, done.1 ++ rest⟩

/-- Some of the work is done, maybe all of it. -/
abbrev Leads (env : Surroundings) : Work δ κ → Work δ κ → Prop :=
  Relation.ReflTransGen fun v w => v.next env = w

variable {env : Surroundings} {w v : Work δ κ}

/-- What allowed actions keep holds of whatever work that consists of allowed actions leads to. -/
theorem Leads.preserves {allowed : Action κ → Prop} {P : Scheduler δ κ → Prop}
    (performed : ∀ s action, allowed action → P s → P (s.perform env action).2)
    (follows : ∀ s : Scheduler δ κ, ∀ action, allowed action →
      ∀ next ∈ (s.perform env action).1, allowed next)
    (h : Leads env w v) (start : P w.scheduler) (all : ∀ action ∈ w.left, allowed action) :
    P v.scheduler ∧ ∀ action ∈ v.left, allowed action := by
  induction h with
  | refl => exact ⟨start, all⟩
  | @tail u v _ step ih =>
      obtain ⟨kept, rest⟩ := ih
      obtain ⟨s, left⟩ := u
      subst step
      cases left with
      | nil => exact ⟨kept, rest⟩
      | cons action others =>
          have ok := rest action List.mem_cons_self
          refine ⟨performed s action ok kept, ?_⟩
          refine List.forall_mem_append.2 ⟨follows s action ok, ?_⟩
          exact fun other member => rest other (List.mem_cons_of_mem _ member)

/-- Whatever is left to do, it comes to an end. -/
theorem leads_carryOut (env : Surroundings) (s : Scheduler δ κ) (agenda : List (Action κ)) :
    Leads env ⟨s, agenda⟩ ⟨(s.carryOut env agenda).scheduler, []⟩ := by
  refine Run.carryOut_keeps (P := fun run left => Leads env ⟨s, agenda⟩ ⟨run.scheduler, left⟩) ?_
    .refl
  intro run action rest leads
  refine leads.tail ?_
  rw [Run.scheduler_go]
  rfl

/-- An operation is a sequence of steps, after which nothing is left to do. -/
theorem leads_run (env : Surroundings) (s : Scheduler δ κ) (o : Operation κ) :
    Leads env ⟨s, o.agenda s.settings⟩ ⟨(s.run env o).scheduler, []⟩ :=
  leads_carryOut env s (o.agenda s.settings)

end Work

end OfferDispatch
