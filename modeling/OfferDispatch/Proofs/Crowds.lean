import Mathlib.Logic.Function.Iterate
import OfferDispatch.Proofs.Agendas
import OfferDispatch.Proofs.Completion

/-!
# Crowds

Many callers may ask something of a scheduler at the same time. Each has an agenda, and does one
action after another; which caller goes on next is open. Whatever a caller is to tell a host is on
the way until it gets to it, and anything may be done by others in the meantime.

What a caller is called back with brings along its number, so that requests can be told apart even
if they are for workers of one name. When a request is taken back because no session could be
started, it is noted by whom and whose it was.

A caller that is left alone does what it does without others, and no notice gets lost: whatever has
come about has been told, is on the way or is deferred.
-/

namespace OfferDispatch

variable {δ κ : Type}

structure Caller (κ : Type) where
  operation : Operation κ
  /-- What is left to do. -/
  left : List (Action κ)
  reply : Option Reply := none

/-- A scheduler, and all who have asked something of it, in the order in which they came. -/
structure Crowd (δ κ : Type) where
  scheduler : Scheduler δ (Nat × κ)
  callers : List (Caller (Nat × κ)) := []
  /-- What hosts were told. -/
  told : List (Notice (Nat × κ)) := []
  /-- The notices that came about, the oldest first. -/
  created : List (Notice (Nat × κ)) := []
  /-- The numbers of the callers who have taken back a request, and of those whose request it was,
  if there was one. -/
  withdrawals : List (Nat × Option Nat) := []

inductive Crowd.Turn (κ : Type)
  /-- Somebody comes and asks something. -/
  | enter (operation : Operation κ)
  /-- A caller goes on. -/
  | proceed (env : Surroundings) (number : Nat)

/-- What an action returns to its caller. -/
def Action.reply? : Action κ → Option Reply
  | .answer reply => some reply
  | _ => none

section

variable [ClusterDriver δ] (env : Surroundings) (run : Run δ κ) (action : Action κ)

theorem Run.told_go : (run.go env action).told = run.told ++ tells [action] := by
  cases action <;> simp [go, tells]

theorem Run.reply_go : (run.go env action).reply = action.reply?.or run.reply := by
  cases action <;> rfl

end

/-- Whose request is taken back in an action that takes one back. -/
def Scheduler.takenBack (s : Scheduler δ (Nat × κ)) : Action (Nat × κ) → List (Option Nat)
  | .withdraw worker _ => [(s.requests.remove? worker).map (·.1.callback.1)]
  | _ => []

namespace Crowd

def enter (c : Crowd δ κ) (operation : Operation κ) : Crowd δ κ :=
  let own := operation.map (Prod.mk c.callers.length)
  { c with callers := c.callers ++ [⟨own, own.agenda c.scheduler.settings, none⟩] }

variable [ClusterDriver δ]

/-- A caller does an action, and then what follows from it before the rest. -/
def act (env : Surroundings) (number : Nat) (operation : Operation (Nat × κ))
    (action : Action (Nat × κ)) (rest : List (Action (Nat × κ))) (reply : Option Reply)
    (c : Crowd δ κ) : Crowd δ κ where
  scheduler := (c.scheduler.perform env action).2
  callers := c.callers.set number
    ⟨operation, (c.scheduler.perform env action).1 ++ rest, action.reply?.or reply⟩
  told := c.told ++ tells [action]
  created := c.created ++ c.scheduler.created env action
  withdrawals := c.withdrawals ++ (c.scheduler.takenBack action).map (Prod.mk number)

/-- A caller goes on, if it has anything left to do. -/
def proceed (env : Surroundings) (number : Nat) (c : Crowd δ κ) : Crowd δ κ :=
  match c.callers[number]? with
  | some ⟨operation, action :: rest, reply⟩ => c.act env number operation action rest reply
  | _ => c

def turn (c : Crowd δ κ) : Turn κ → Crowd δ κ
  | .enter operation => c.enter operation
  | .proceed env number => c.proceed env number

def after (s : Scheduler δ (Nat × κ)) (turns : List (Turn κ)) : Crowd δ κ :=
  turns.foldl turn { scheduler := s }

@[simp] theorem after_concat (s : Scheduler δ (Nat × κ)) (turns : List (Turn κ)) (t : Turn κ) :
    after s (turns ++ [t]) = (after s turns).turn t := by
  simp [after]

section

variable {c : Crowd δ κ} {before after : List (Caller (Nat × κ))} {operation : Operation (Nat × κ)}
  {action : Action (Nat × κ)} {rest : List (Action (Nat × κ))} {reply : Option Reply}

theorem callers_act (env : Surroundings)
    (at_ : c.callers = before ++ ⟨operation, action :: rest, reply⟩ :: after) :
    (c.act env before.length operation action rest reply).callers =
      before ++ ⟨operation, (c.scheduler.perform env action).1 ++ rest,
        action.reply?.or reply⟩ :: after := by
  simp [act, at_]

theorem proceed_of_callers (env : Surroundings)
    (at_ : c.callers = before ++ ⟨operation, action :: rest, reply⟩ :: after) :
    c.proceed env before.length = c.act env before.length operation action rest reply := by
  have found : c.callers[before.length]? = some ⟨operation, action :: rest, reply⟩ := by
    simp [at_]
  rw [proceed, found]

end

/-- A caller with something left to do goes on, or nothing happens. -/
theorem proceed_cases (env : Surroundings) (number : Nat) (c : Crowd δ κ) :
    c.proceed env number = c ∨
      ∃ before operation action rest reply after,
        c.callers = before ++ ⟨operation, action :: rest, reply⟩ :: after ∧
        number = before.length ∧
        c.proceed env number = c.act env number operation action rest reply := by
  rw [proceed]
  split
  · next operation action rest reply found =>
      obtain ⟨lt, same⟩ := List.getElem?_eq_some_iff.1 found
      refine .inr ⟨c.callers.take number, operation, action, rest, reply,
        c.callers.drop (number + 1), ?_, (List.length_take_of_le (Nat.le_of_lt lt)).symm, rfl⟩
      rw [← same, ← List.drop_eq_getElem_cons lt, List.take_append_drop]
  · exact .inl rfl

/-- What is kept whenever somebody comes and whenever somebody acts, a turn keeps. -/
theorem turn_preserves {P : Crowd δ κ → Prop} {c : Crowd δ κ} (h : P c) (t : Turn κ)
    (entered : ∀ operation, t = .enter operation → P (c.enter operation))
    (acted : ∀ env before operation action rest reply after, t = .proceed env before.length →
      c.callers = before ++ ⟨operation, action :: rest, reply⟩ :: after →
      P (c.act env before.length operation action rest reply)) :
    P (c.turn t) := by
  cases t with
  | enter operation => exact entered operation rfl
  | proceed env number =>
      rw [turn]
      obtain same | ⟨before, operation, action, rest, reply, after, at_, rfl, same⟩ :=
        proceed_cases env number c
      · rw [same]
        exact h
      · rw [same]
        exact acted env before operation action rest reply after rfl at_

/-- What every turn of a crowd keeps, a crowd keeps. -/
theorem after_preserves {P : Crowd δ κ → Prop} {s : Scheduler δ (Nat × κ)}
    (start : P { scheduler := s }) (turned : ∀ c t, P c → P (c.turn t)) (turns : List (Turn κ)) :
    P (after s turns) :=
  List.foldlRecOn turns turn start fun c h t _ => turned c t h

/-! ## A caller that is left alone -/

/-- If whoever comes is left alone, the operation is run in one go: hosts are told the same, and the
caller gets the same reply. -/
theorem exists_proceed_of_enter (env : Surroundings) (c : Crowd δ κ) (operation : Operation κ) :
    let own := operation.map (Prod.mk c.callers.length)
    let run := c.scheduler.run env own
    ∃ turns d, (proceed env c.callers.length)^[turns] (c.enter operation) = d ∧
      d.scheduler = run.scheduler ∧ d.callers = c.callers ++ [⟨own, [], run.reply⟩] ∧
        d.told = c.told ++ run.told := by
  intro own run
  refine Run.carryOut_keeps (P := fun run left => ∃ turns d,
    (proceed env c.callers.length)^[turns] (c.enter operation) = d ∧
      d.scheduler = run.scheduler ∧ d.callers = c.callers ++ [⟨own, left, run.reply⟩] ∧
        d.told = c.told ++ run.told) ?_ ⟨0, _, rfl, rfl, rfl, (List.append_nil _).symm⟩
  rintro run action rest ⟨turns, d, gone, scheduler, callers, told⟩
  refine ⟨turns + 1, _, rfl, ?_⟩
  rw [Function.iterate_succ_apply', gone, proceed_of_callers env callers, callers_act env callers]
  rw [run.scheduler_go, run.reply_go, run.told_go, act, scheduler, told, List.append_assoc]
  exact ⟨rfl, rfl, rfl⟩

/-! ## Notices on the way -/

/-- What callers are going to tell hosts. -/
def onTheWay (c : Crowd δ κ) : List (Notice (Nat × κ)) := c.callers.flatMap fun k => tells k.left

/-- The notices that have been told, are on the way or are deferred. -/
def notices (c : Crowd δ κ) : List (Notice (Nat × κ)) := c.told ++ c.onTheWay ++ c.scheduler.deferred

omit [ClusterDriver δ] in
theorem tells_cons (action : Action κ) (rest : List (Action κ)) :
    tells (action :: rest) = tells [action] ++ tells rest := by
  rw [← tells_append, List.singleton_append]

omit [ClusterDriver δ] in
/-- Whoever comes has nothing to tell yet. -/
theorem onTheWay_enter (c : Crowd δ κ) (operation : Operation κ) :
    (c.enter operation).onTheWay = c.onTheWay := by
  have silent := tells_agenda c.scheduler.settings (operation.map (Prod.mk c.callers.length))
  rw [onTheWay, enter, List.flatMap_append, List.flatMap_singleton, silent, List.append_nil,
    onTheWay]

/-- Whatever has come about has been told, is on the way or is deferred. -/
def Balanced (test : Notice (Nat × κ) → Bool) (c : Crowd δ κ) : Prop :=
  c.created.countP test = c.notices.countP test

theorem Balanced.turn {test : Notice (Nat × κ) → Bool} {c : Crowd δ κ} (h : Balanced test c)
    (t : Turn κ) : Balanced test (c.turn t) := by
  refine turn_preserves h t ?_ ?_
  · intro operation _
    rw [Balanced, notices, onTheWay_enter]
    exact h
  · intro env before operation action rest reply after _ at_
    have now := c.scheduler.countP_created env action test
    have callers := callers_act env at_
    simp only [Balanced, notices, onTheWay, callers, at_, List.flatMap_append,
      List.flatMap_cons, List.countP_append, tells_cons action rest, tells_append] at h ⊢
    simp only [act, List.countP_append]
    omega

omit [ClusterDriver δ] in
theorem perm_of_balanced {c : Crowd δ κ} (h : ∀ test, Balanced test c) :
    c.created.Perm c.notices := by
  classical
  exact List.perm_iff_count.2 fun notice => h (· == notice)

theorem created_perm (s : Scheduler δ (Nat × κ)) (none : s.deferred = []) (turns : List (Turn κ)) :
    (after s turns).created.Perm (after s turns).notices := by
  apply perm_of_balanced
  intro test
  refine after_preserves (P := Balanced test) ?_ (fun c t h => h.turn t) turns
  simp [Balanced, notices, onTheWay, none]

end Crowd

end OfferDispatch
