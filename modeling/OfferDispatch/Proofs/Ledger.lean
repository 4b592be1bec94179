import Mathlib.Data.List.Perm.Subperm
import Mathlib.Logic.Relation
import OfferDispatch.Proofs.Course

/-!
# The ledger of requests and tasks

A ledger shows what is on record about workers: who waits, which tasks are live and how others
ended, together with every notice that has come about and every task that was launched. There are
six ways in which it moves. A request leaves the queue because it fails or because its task is
launched, a live task comes further, is announced as running or ends, and the records of ended tasks
are forgotten. New requests are written into it, which is no move.

In a ledger no name stands twice, be it as that of a request, of a live task or of an ended one.
Moves keep it that way. In such a ledger everything that the scheduler does is a sequence of moves,
so that what holds of each move holds of all runs.
-/

namespace OfferDispatch

variable {δ κ : Type}

structure Ledger (κ : Type) where
  waiting : List (Request κ)
  live : List (LiveTask κ)
  retired : List (TaskId × Ending)
  /-- How often the records of ended tasks were forgotten. -/
  generation : Nat
  /-- The notices that have come about. -/
  created : List (Notice κ)
  /-- The tasks whose launch succeeded. -/
  launched : List TaskId

namespace Ledger

/-- The tasks that are live or on record as ended. -/
def tasks (l : Ledger κ) : List TaskId := l.live.map (·.id) ++ l.retired.map (·.1)

/-- All names in a ledger: of requests, of live tasks and of ended ones. -/
def names (l : Ledger κ) : List TaskId := l.waiting.map (·.name) ++ l.tasks

/-- No name stands twice. -/
def WellNamed (l : Ledger κ) : Prop := l.names.Nodup

def enlist (l : Ledger κ) (r : Request κ) : Ledger κ := { l with waiting := l.waiting ++ [r] }

/-- One step in the affairs of workers. -/
inductive Move : Ledger κ → Ledger κ → Prop
  /-- A request leaves the queue and has failed. -/
  | fail {l : Ledger κ} {before after : List (Request κ)} {r : Request κ}
      (at_ : l.waiting = before ++ r :: after) :
      Move l { l with
        waiting := before ++ after
        created := l.created ++ [r.failed] }
  /-- A request leaves the queue and its task is live. -/
  | launch {l : Ledger κ} {before after : List (Request κ)} {r : Request κ} (offer : OfferId)
      (agent : AgentId) (at_ : l.waiting = before ++ r :: after) :
      Move l { l with
        waiting := before ++ after
        live := l.live ++ [.launched offer agent r]
        launched := l.launched ++ [r.name] }
  /-- A live task comes further. -/
  | advance {l : Ledger κ} {before after : List (LiveTask κ)} {t : LiveTask κ} (state : TaskState)
      (at_ : l.live = before ++ t :: after) :
      Move l { l with live := before ++ { t with state := state } :: after }
  /-- A live task runs for the first time. -/
  | announce {l : Ledger κ} {before after : List (LiveTask κ)} {t : LiveTask κ} (state : TaskState)
      (new : t.announced = false) (at_ : l.live = before ++ t :: after) :
      Move l { l with
        live := before ++ { t with state := state, announced := true } :: after
        created := l.created ++ [t.notice .running] }
  /-- A live task ends. -/
  | finish {l : Ledger κ} {before after : List (LiveTask κ)} {t : LiveTask κ} {kind : NoticeKind}
      (ending : Ending) (last : kind.isEnd = true) (at_ : l.live = before ++ t :: after) :
      Move l { l with
        live := before ++ after
        retired := l.retired ++ [(t.id, ending)]
        created := l.created ++ [t.notice kind] }
  /-- The ended tasks are forgotten. -/
  | forget {l : Ledger κ} : Move l { l with retired := [], generation := l.generation + 1 }

/-- One ledger comes from another by moves. -/
abbrev Leads : Ledger κ → Ledger κ → Prop := Relation.ReflTransGen Move

/-- A move, or a request is written in under a new name, or it is struck out again. -/
inductive Change : Ledger κ → Ledger κ → Prop
  | move {l m : Ledger κ} (h : Move l m) : Change l m
  | enlist {l : Ledger κ} {r : Request κ} (new : r.name ∉ l.names) : Change l (l.enlist r)
  | withdraw {l : Ledger κ} {before after : List (Request κ)} {r : Request κ}
      (at_ : l.waiting = before ++ r :: after) : Change l { l with waiting := before ++ after }

/-- One ledger comes from another by changes. -/
abbrev Becomes : Ledger κ → Ledger κ → Prop := Relation.ReflTransGen Change

theorem Leads.becomes {l m : Ledger κ} (h : Leads l m) : Becomes l m :=
  h.lift id fun _ _ => .move

/-! ## Names -/

variable {l m : Ledger κ}

/-- A move brings up no name that was not there. -/
theorem Move.names_subperm (h : Move l m) : m.names.Subperm l.names := by
  cases h with
  | fail at_ =>
      apply List.Sublist.subperm
      simp only [names, tasks, at_]
      refine List.Sublist.append_right (List.Sublist.map _ ?_) _
      exact List.Sublist.append_left (List.sublist_cons_self _ _) _
  | launch offer agent at_ =>
      apply List.Perm.subperm
      simp only [names, tasks, at_, List.map_append, List.map_cons, List.map_nil,
        List.append_assoc, List.cons_append, List.nil_append]
      refine List.Perm.append_left _ ?_
      rw [← List.append_assoc, ← List.append_assoc]
      exact List.perm_middle
  | advance state at_ =>
      apply List.Perm.subperm
      simp [names, tasks, at_, LiveTask.id]
  | announce state new at_ =>
      apply List.Perm.subperm
      simp [names, tasks, at_, LiveTask.id]
  | finish ending last at_ =>
      apply List.Perm.subperm
      simp only [names, tasks, at_, List.map_append, List.map_cons, List.map_nil,
        List.append_assoc, List.cons_append]
      refine List.Perm.append_left _ (List.Perm.append_left _ ?_)
      rw [← List.append_assoc]
      exact List.perm_append_singleton _ _
  | forget =>
      apply List.Sublist.subperm
      simp [names, tasks]

theorem WellNamed.nodup_live (wn : l.WellNamed) : (l.live.map (·.id)).Nodup :=
  (List.nodup_append.1 (List.nodup_append.1 wn).2.1).1

/-- A request that waits has the name of no task on record. -/
theorem WellNamed.not_mem_tasks (wn : l.WellNamed) {r : Request κ} (waits : r ∈ l.waiting) :
    r.name ∉ l.tasks := by
  intro recorded
  exact (List.nodup_append.1 wn).2.2 r.name (List.mem_map_of_mem waits) r.name recorded rfl

/-- A live task is not on record as ended. -/
theorem WellNamed.not_mem_retired (wn : l.WellNamed) {t : LiveTask κ} (live : t ∈ l.live) :
    t.id ∉ l.retired.map (·.1) := by
  intro ended
  have apart := (List.nodup_append.1 (List.nodup_append.1 wn).2.1).2.2
  exact apart t.id (List.mem_map_of_mem live) t.id ended rfl

theorem WellNamed.move (wn : l.WellNamed) (h : Move l m) : m.WellNamed := by
  obtain ⟨names, perm, sub⟩ := h.names_subperm
  exact perm.nodup_iff.1 (wn.sublist sub)

theorem WellNamed.leads (wn : l.WellNamed) (h : Leads l m) : m.WellNamed := by
  induction h with
  | refl => exact wn
  | tail _ move ih => exact ih.move move

theorem WellNamed.enlist {r : Request κ} (wn : l.WellNamed) (new : r.name ∉ l.names) :
    (l.enlist r).WellNamed := by
  have perm : (l.enlist r).names.Perm (r.name :: l.names) := by
    simp only [Ledger.enlist, names, List.map_append, List.map_cons, List.map_nil,
      List.append_assoc, List.singleton_append]
    exact List.perm_middle
  exact perm.nodup_iff.2 (List.nodup_cons.2 ⟨new, wn⟩)

theorem WellNamed.change (wn : l.WellNamed) (h : Change l m) : m.WellNamed := by
  cases h with
  | move h => exact wn.move h
  | enlist new => exact wn.enlist new
  | withdraw at_ =>
      refine List.Nodup.sublist ?_ wn
      simp only [names, tasks, at_]
      refine List.Sublist.append_right (List.Sublist.map _ ?_) _
      exact List.Sublist.append_left (List.sublist_cons_self _ _) _

theorem WellNamed.becomes (wn : l.WellNamed) (h : Becomes l m) : m.WellNamed := by
  induction h with
  | refl => exact wn
  | tail _ change ih => exact ih.change change

/-! ## Launches and records -/

/-- Until records are forgotten, a move launches at most one task, which becomes a record, and drops
no record. -/
theorem Move.tasks (h : Move l m) :
    m.generation = l.generation + 1 ∨
    m.generation = l.generation ∧ m.launched = l.launched ∧ m.tasks.Perm l.tasks ∨
    m.generation = l.generation ∧ ∃ r ∈ l.waiting,
      m.launched = l.launched ++ [r.name] ∧ m.tasks.Perm (r.name :: l.tasks) := by
  cases h with
  | fail at_ => exact .inr (.inl ⟨rfl, rfl, .refl _⟩)
  | @launch before after r offer agent at_ =>
      refine .inr (.inr ⟨rfl, r, by simp [at_], rfl, ?_⟩)
      simp only [tasks, List.map_append, List.map_cons, List.map_nil, List.append_assoc]
      exact List.perm_middle
  | advance state at_ =>
      refine .inr (.inl ⟨rfl, rfl, .of_eq ?_⟩)
      simp [tasks, at_, LiveTask.id]
  | announce state new at_ =>
      refine .inr (.inl ⟨rfl, rfl, .of_eq ?_⟩)
      simp [tasks, at_, LiveTask.id]
  | finish ending last at_ =>
      refine .inr (.inl ⟨rfl, rfl, ?_⟩)
      simp only [tasks, at_, List.map_append, List.map_cons, List.map_nil, List.append_assoc,
        List.cons_append]
      refine List.Perm.append_left _ ?_
      rw [← List.append_assoc]
      exact List.perm_append_singleton _ _
  | forget => exact .inl rfl

/-- Until records are forgotten, no task is launched that is on record, and none goes off it. -/
theorem Becomes.launches (wn : l.WellNamed) (h : Becomes l m) :
    l.generation ≤ m.generation ∧ (m.generation = l.generation →
      ∃ more, m.launched = l.launched ++ more ∧ (∀ task ∈ l.tasks, task ∈ m.tasks) ∧
        more.Nodup ∧ (∀ task ∈ more, task ∈ m.tasks ∧ task ∉ l.tasks)) := by
  induction h with
  | refl => exact ⟨Nat.le_refl _, fun _ => ⟨[], by simp⟩⟩
  | @tail k m before change ih =>
      obtain ⟨le, ih⟩ := ih
      have wk := wn.becomes before
      cases change with
      | enlist | withdraw => exact ⟨le, ih⟩
      | move move =>
          obtain next | ⟨same, launched, perm⟩ | ⟨same, r, waits, launched, perm⟩ := move.tasks
          · exact ⟨by omega, by omega⟩
          · refine ⟨by omega, fun here => ?_⟩
            obtain ⟨more, grown, kept, nodup, new⟩ := ih (by omega)
            refine ⟨more, launched.trans grown, ?_, nodup, ?_⟩
            · intro task known
              exact perm.mem_iff.2 (kept task known)
            · intro task launch
              exact ⟨perm.mem_iff.2 (new task launch).1, (new task launch).2⟩
          · refine ⟨by omega, fun here => ?_⟩
            obtain ⟨more, grown, kept, nodup, new⟩ := ih (by omega)
            have unrecorded : r.name ∉ k.tasks := wk.not_mem_tasks waits
            refine ⟨more ++ [r.name], ?_, ?_, ?_, ?_⟩
            · rw [launched, grown, List.append_assoc]
            · intro task known
              exact perm.mem_iff.2 (List.mem_cons_of_mem _ (kept task known))
            · refine List.nodup_append.2 ⟨nodup, List.nodup_cons.2 ⟨nofun, .nil⟩, ?_⟩
              rintro task launch other last rfl
              rw [List.mem_singleton.1 last] at launch
              exact unrecorded (new r.name launch).1
            · intro task launch
              rcases List.mem_append.1 launch with launch | launch
              · exact ⟨perm.mem_iff.2 (List.mem_cons_of_mem _ (new task launch).1),
                  (new task launch).2⟩
              · rw [List.mem_singleton.1 launch]
                exact ⟨perm.mem_iff.2 List.mem_cons_self, fun known => unrecorded (kept _ known)⟩

end Ledger

end OfferDispatch
