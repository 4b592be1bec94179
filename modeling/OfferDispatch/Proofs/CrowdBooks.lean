import OfferDispatch.Proofs.Crowds

/-!
# The books of a crowd

What a caller does in one action is a sequence of moves of the ledger, or it takes in a request, or
it takes one back. The latter goes by name, so it may be the request of somebody else; but the
caller has none that waits afterwards.

So the books can be kept of each caller, however the actions of all of them are mixed. It is known
how far the caller has come, and the accounts are in order of its request, unless somebody has taken
it back: as long as it counts, the request waits, its task is live, or it has ended once.
-/

namespace OfferDispatch

variable {δ κ : Type}

section

variable {α : Type} {p : α → Prop} {before after : List α} {a : α}

theorem forall_mem_middle :
    (∀ x ∈ before ++ a :: after, p x) ↔ p a ∧ ∀ x ∈ before ++ after, p x := by
  rw [List.forall_mem_append, List.forall_mem_cons, List.forall_mem_append]
  exact and_left_comm

theorem forall_mem_concat : (∀ x ∈ before ++ [a], p x) ↔ (∀ x ∈ before, p x) ∧ p a := by
  rw [List.forall_mem_append, List.forall_mem_singleton]

end

/-! ## What a caller does to the ledger -/

namespace Ledger

/-- What is on record under a name is of somebody who asked for it. -/
structure All (P : κ → TaskId → Prop) (l : Ledger κ) : Prop where
  waiting : ∀ r ∈ l.waiting, P r.callback r.name
  live : ∀ t ∈ l.live, P t.request.callback t.id
  created : ∀ n ∈ l.created, P n.callback n.place.worker

section

variable {P Q : κ → TaskId → Prop} {l m : Ledger κ}

theorem All.mono (h : l.All P) (sub : ∀ callback worker, P callback worker → Q callback worker) :
    l.All Q :=
  ⟨fun r m => sub _ _ (h.waiting r m), fun t m => sub _ _ (h.live t m),
    fun n m => sub _ _ (h.created n m)⟩

theorem All.move (h : l.All P) (move : Move l m) : m.All P := by
  obtain ⟨waiting, live, created⟩ := h
  cases move with
  | fail at_ =>
      rw [at_, forall_mem_middle] at waiting
      exact ⟨waiting.2, live, forall_mem_concat.2 ⟨created, waiting.1⟩⟩
  | launch offer agent at_ =>
      rw [at_, forall_mem_middle] at waiting
      exact ⟨waiting.2, forall_mem_concat.2 ⟨live, waiting.1⟩, created⟩
  | advance state at_ =>
      rw [at_, forall_mem_middle] at live
      exact ⟨waiting, forall_mem_middle.2 live, created⟩
  | announce state new at_ =>
      rw [at_, forall_mem_middle] at live
      exact ⟨waiting, forall_mem_middle.2 live, forall_mem_concat.2 ⟨created, live.1⟩⟩
  | finish ending last at_ =>
      rw [at_, forall_mem_middle] at live
      exact ⟨waiting, live.2, forall_mem_concat.2 ⟨created, live.1⟩⟩
  | forget => exact ⟨waiting, live, created⟩

theorem All.leads (h : l.All P) (leads : Leads l m) : m.All P := by
  induction leads with
  | refl => exact h
  | tail _ move ih => exact ih.move move

/-- What a caller who asks for this does to the ledger in one action: whose request it takes back,
how many requests it takes in, and how many it takes back. -/
inductive Effect (operation : Operation (Nat × κ)) :
    (l m : Ledger (Nat × κ)) → List (Option Nat) → (listed withdrew : Nat) → Prop
  | moves {l m : Ledger (Nat × κ)} (leads : Leads l m) : Effect operation l m [] 0 0
  | lists {l : Ledger (Nat × κ)} {spec : WorkerSpec Float} {callback : Nat × κ}
      (asked : operation = .request spec callback) {r : Request (Nat × κ)}
      (own : r.callback = callback) (named : r.name = spec.name) (new : r.name ∉ l.names) :
      Effect operation l (l.enlist r) [] 1 0
  /-- Its own request is no longer there, be it that it is the one that is taken back. -/
  | strikes {l : Ledger (Nat × κ)} {spec : WorkerSpec Float} {callback : Nat × κ}
      (asked : operation = .request spec callback) {before after : List (Request (Nat × κ))}
      {r : Request (Nat × κ)} (at_ : l.waiting = before ++ r :: after)
      (gone : ∀ x ∈ before ++ after, x.name ≠ spec.name) :
      Effect operation l { l with waiting := before ++ after } [some r.callback.1] 0 1
  | misses {l : Ledger (Nat × κ)} {spec : WorkerSpec Float} {callback : Nat × κ}
      (asked : operation = .request spec callback) (gone : ∀ x ∈ l.waiting, x.name ≠ spec.name) :
      Effect operation l l [none] 0 1

theorem All.effect {P : Nat × κ → TaskId → Prop} {operation : Operation (Nat × κ)}
    {l m : Ledger (Nat × κ)} {back : List (Option Nat)} {listed withdrew : Nat} (h : l.All P)
    (e : Effect operation l m back listed withdrew)
    (asked : ∀ {spec callback}, operation = .request spec callback → P callback spec.name) :
    m.All P := by
  cases e with
  | moves leads => exact h.leads leads
  | lists asks own named =>
      have mine := asked asks
      rw [← own, ← named] at mine
      exact ⟨forall_mem_concat.2 ⟨h.waiting, mine⟩, h.live, h.created⟩
  | strikes _ at_ =>
      have waiting := h.waiting
      rw [at_, forall_mem_middle] at waiting
      exact ⟨waiting.2, h.live, h.created⟩
  | misses => exact h

end

section

variable {mine : κ → Bool} {count : Nat} {l m : Ledger κ}

/-- A request that is singled out is taken back, and it is as if it had not been taken in. -/
theorem Accounts.withdraw {before after : List (Request κ)} {r : Request κ}
    (a : Accounts mine count l) (single : count ≤ 1) (own : mine r.callback = true)
    (at_ : l.waiting = before ++ r :: after) :
    Accounts mine (count - 1) { l with waiting := before ++ after } ∧ 0 < count := by
  have total := a.total
  have announced := a.announced
  have fewer : ({ l with waiting := before ++ after } : Ledger κ).awaiting mine + 1 =
      l.awaiting mine := by
    simp only [awaiting, at_, List.countP_append, List.countP_cons, own, if_true]
    omega
  have active : ({ l with waiting := before ++ after } : Ledger κ).active mine = l.active mine := rfl
  have unannounced : ({ l with waiting := before ++ after } : Ledger κ).unannounced mine =
    l.unannounced mine := rfl
  have kinds : ({ l with waiting := before ++ after } : Ledger κ).kinds mine = l.kinds mine := rfl
  refine ⟨⟨?_, ?_, ?_⟩, by omega⟩
  · rw [active, kinds]
    omega
  · rw [unannounced, kinds]
    omega
  · intro _
    exact a.ordered single

theorem Accounts.withdraw_other {before after : List (Request κ)} {r : Request κ}
    (a : Accounts mine count l) (other : mine r.callback = false)
    (at_ : l.waiting = before ++ r :: after) :
    Accounts mine count { l with waiting := before ++ after } := by
  have same : ({ l with waiting := before ++ after } : Ledger κ).awaiting mine =
      l.awaiting mine := by
    simp [awaiting, at_, other]
  refine a.of_silent ?_ ?_ rfl
  · exact congrArg (· + l.active mine) same
  · exact Nat.le_of_eq (congrArg (· + l.unannounced mine) same)

theorem Move.waiting_sublist (h : Move l m) : m.waiting.Sublist l.waiting := by
  cases h with
  | fail at_ | launch _ _ at_ =>
      rw [at_]
      exact List.Sublist.append_left (List.sublist_cons_self _ _) _
  | advance | announce | finish | forget => exact .refl _

theorem Leads.waiting_sublist (h : Leads l m) : m.waiting.Sublist l.waiting := by
  induction h with
  | refl => exact .refl _
  | tail _ move ih => exact move.waiting_sublist.trans ih

end

/-- The books of a caller, if its request was taken in and it has taken back a request so many
times. -/
structure Books (number listed withdrew : Nat) (l : Ledger (Nat × κ))
    (withdrawals : List (Nat × Option Nat)) : Prop where
  /-- The accounts are those of the requests that were not taken back. -/
  accounts : ∃ count, l.Accounts (isOf number) count ∧
    count + withdrawals.countP (·.2 == some number) = listed
  withdrew_eq : withdrawals.countP (·.1 == number) = withdrew
  /-- Whoever has taken back a request has none that waits. -/
  gone : 0 < withdrew → ∀ r ∈ l.waiting, r.callback.1 ≠ number

section

variable {number other listed withdrew listing withdrawing : Nat} {l m : Ledger (Nat × κ)}
  {withdrawals : List (Nat × Option Nat)} {back : List (Option Nat)}
  {operation : Operation (Nat × κ)}

theorem isOf_eq_false {callback : Nat × κ} (apart : callback.1 ≠ number) :
    isOf number callback = false :=
  beq_eq_false_iff_ne.2 apart

/-- The books stay in order when a request is taken back, by whomever. -/
theorem Books.strike {before after : List (Request (Nat × κ))} {r : Request (Nat × κ)}
    (b : Books number listed withdrew l withdrawals) (single : listed ≤ 1)
    (at_ : l.waiting = before ++ r :: after) :
    ∃ count, Accounts (isOf number) count { l with waiting := before ++ after } ∧
      count + withdrawals.countP (·.2 == some number) +
        [some r.callback.1].countP (· == some number) = listed := by
  obtain ⟨count, accounts, sum⟩ := b.accounts
  by_cases own : r.callback.1 = number
  · obtain ⟨struck, positive⟩ := accounts.withdraw (by omega) (beq_iff_eq.2 own) at_
    refine ⟨count - 1, struck, ?_⟩
    rw [own, List.countP_singleton, if_pos (beq_self_eq_true _)]
    omega
  · refine ⟨count, accounts.withdraw_other (isOf_eq_false own) at_, ?_⟩
    rw [List.countP_singleton, if_neg (by simpa using own)]
    exact sum

/-- The books of the others stay in order, also if a request of theirs is taken back. -/
theorem Books.of_other (b : Books other listed withdrew l withdrawals) (single : listed ≤ 1)
    (e : Effect operation l m back listing withdrawing)
    (own : ∀ spec callback, operation = .request spec callback → callback.1 = number)
    (apart : number ≠ other) :
    Books other listed withdrew m (withdrawals ++ back.map (Prod.mk number)) := by
  have none : (back.map (Prod.mk number)).countP (·.1 == other) = 0 := by
    rw [List.countP_eq_zero, List.forall_mem_map]
    intro _ _
    simpa using apart
  have some_ : (back.map (Prod.mk number)).countP (·.2 == some other) =
      back.countP (· == some other) := List.countP_map ..
  have withdrew_eq : (withdrawals ++ back.map (Prod.mk number)).countP (·.1 == other) =
      withdrew := by
    rw [List.countP_append, none]
    exact b.withdrew_eq
  obtain ⟨count, accounts, sum⟩ := b.accounts
  refine ⟨?_, withdrew_eq, ?_⟩
  · rw [List.countP_append, some_]
    cases e with
    | moves leads => exact ⟨count, accounts.leads leads, sum⟩
    | lists asked mine =>
        have new := own _ _ asked
        rw [← mine] at new
        exact ⟨count, accounts.enlist_other (isOf_eq_false (new ▸ apart)), sum⟩
    | strikes _ at_ =>
        simpa only [Nat.add_assoc] using b.strike single at_
    | misses => exact ⟨count, accounts, sum⟩
  · intro done r waits
    cases e with
    | moves leads => exact b.gone done r (leads.waiting_sublist.subset waits)
    | lists asked mine =>
        obtain earlier | new := List.mem_append.1 waits
        · exact b.gone done r earlier
        · obtain rfl := List.mem_singleton.1 new
          rw [mine, own _ _ asked]
          exact apart
    | strikes _ at_ =>
        have gone := b.gone done
        rw [at_, forall_mem_middle] at gone
        exact gone.2 r waits
    | misses => exact b.gone done r waits

/-- The books of a caller go on with what it does. -/
theorem Books.of_own (b : Books number listed withdrew l withdrawals) (single : listed ≤ 1)
    (e : Effect operation l m back listing withdrawing)
    (own : ∀ spec callback, operation = .request spec callback → callback.1 = number)
    (named : ∀ r ∈ l.waiting, ∀ spec callback, operation = .request spec callback →
      r.callback.1 = number → r.name = spec.name)
    (first : listing = 1 → withdrew = 0) :
    Books number (listed + listing) (withdrew + withdrawing) m
      (withdrawals ++ back.map (Prod.mk number)) := by
  obtain ⟨count, accounts, sum⟩ := b.accounts
  have withdrew_eq := b.withdrew_eq
  cases e with
  | moves leads =>
      rw [List.map_nil, List.append_nil]
      exact ⟨⟨count, accounts.leads leads, sum⟩, withdrew_eq,
        fun done r waits => b.gone done r (leads.waiting_sublist.subset waits)⟩
  | lists asked mine =>
      have same := own _ _ asked
      rw [← mine] at same
      rw [List.map_nil, List.append_nil]
      refine ⟨⟨count + 1, accounts.enlist (beq_iff_eq.2 same), by omega⟩, withdrew_eq, ?_⟩
      intro done
      rw [first rfl] at done
      exact absurd done (Nat.lt_irrefl 0)
  | strikes asked at_ gone =>
      obtain ⟨left, struck, sum⟩ := b.strike single at_
      refine ⟨⟨left, struck, ?_⟩, ?_, ?_⟩
      · rw [List.countP_append, Nat.add_zero]
        exact (Nat.add_assoc ..).symm.trans sum
      · rw [List.countP_append, withdrew_eq]
        simp
      · intro _ r waits same
        rw [at_, forall_mem_middle] at named
        exact gone r waits (named.2 r waits _ _ asked same)
  | misses asked gone =>
      refine ⟨⟨count, accounts, ?_⟩, ?_, ?_⟩
      · rw [List.countP_append, Nat.add_zero]
        simpa using sum
      · rw [List.countP_append, withdrew_eq]
        simp
      · intro _ r waits same
        exact gone r waits (named r waits _ _ asked same)

end

end Ledger

/-- How far the caller of a number has come: whether its request was taken in, and whether it has
taken back a request. -/
inductive Caller.Stands (number : Nat) : Caller (Nat × κ) → (listed withdrew : Nat) → Prop
  | apart {operation : Operation (Nat × κ)} {left : List (Action (Nat × κ))}
      {reply : Option Reply} (other : operation.isRequest = false)
      (rest : ∀ action ∈ left, action.isIntake = false) : Stands number ⟨operation, left, reply⟩ 0 0
  | comes (spec : WorkerSpec Float) (callback : κ) :
      Stands number
        ⟨.request spec (number, callback), [.enlist ⟨spec, (number, callback)⟩], none⟩ 0 0
  | isTurnedAway (spec : WorkerSpec Float) (callback : κ) (e : SchedulerError) :
      Stands number ⟨.request spec (number, callback), [.answer (.refused e)], none⟩ 0 0
  | wasTurnedAway (spec : WorkerSpec Float) (callback : κ) (e : SchedulerError) :
      Stands number ⟨.request spec (number, callback), [], some (.refused e)⟩ 0 0
  | connects (spec : WorkerSpec Float) (callback : κ) :
      Stands number ⟨.request spec (number, callback), [.connect spec.name], none⟩ 1 0
  | isServed (spec : WorkerSpec Float) (callback : κ) :
      Stands number ⟨.request spec (number, callback), [.answer .done], none⟩ 1 0
  | wasServed (spec : WorkerSpec Float) (callback : κ) :
      Stands number ⟨.request spec (number, callback), [], some .done⟩ 1 0
  | fails (spec : WorkerSpec Float) (callback : κ) (e : SchedulerError) :
      Stands number ⟨.request spec (number, callback), [.withdraw spec.name e], none⟩ 1 0
  | isRefused (spec : WorkerSpec Float) (callback : κ) (e : SchedulerError) :
      Stands number ⟨.request spec (number, callback), [.answer (.refused e)], none⟩ 1 1
  | wasRefused (spec : WorkerSpec Float) (callback : κ) (e : SchedulerError) :
      Stands number ⟨.request spec (number, callback), [], some (.refused e)⟩ 1 1

/-- A caller takes in one request at most, and takes one back at most, after that. -/
theorem Caller.Stands.le {number listed withdrew : Nat} {caller : Caller (Nat × κ)}
    (h : caller.Stands number listed withdrew) : withdrew ≤ listed ∧ listed ≤ 1 := by
  cases h <;> exact ⟨by decide, by decide⟩

theorem Caller.Stands.number_eq {number listed withdrew : Nat} {caller : Caller (Nat × κ)}
    (h : caller.Stands number listed withdrew) {spec : WorkerSpec Float} {callback : Nat × κ}
    (asked : caller.operation = .request spec callback) : callback.1 = number := by
  cases h with
  | apart other =>
      subst asked
      cases other
  | _ =>
      cases asked
      rfl

/-- Whoever comes has not been taken in yet. -/
theorem Caller.stands_new (settings : SchedulerSettings) (number : Nat) (o : Operation κ) :
    Caller.Stands number
      ⟨o.map (Prod.mk number), (o.map (Prod.mk number)).agenda settings, none⟩ 0 0 := by
  cases o with
  | request spec callback => exact .comes spec callback
  | offers delivered =>
      refine .apart rfl ?_
      simp only [Operation.map, Operation.agenda, List.forall_mem_append]
      refine ⟨⟨⟨?_, ?_⟩, ?_⟩, ?_⟩
      · split <;> simp [Action.isIntake]
      · simp [Action.isIntake]
      · split <;> simp [Action.isIntake]
      · simp [Action.isIntake]
  | _ => exact .apart rfl (by simp [Operation.map, Operation.agenda, Action.isIntake])

namespace Scheduler

variable {s : Scheduler δ (Nat × κ)} {created : List (Notice (Nat × κ))}

/-- A request is taken back by name, if there is one; afterwards no request of the name waits. -/
theorem effect_erase {spec : WorkerSpec Float} {callback : Nat × κ}
    (wn : (s.ledger created).WellNamed) :
    Ledger.Effect (.request spec callback) (s.ledger created)
      (({ s with requests := s.requests.erase spec.name } : Scheduler δ (Nat × κ)).ledger created)
      [(s.requests.remove? spec.name).map (·.1.callback.1)] 0 1 := by
  cases found : s.requests.remove? spec.name with
  | none =>
      have absent : ∀ x ∈ s.requests.waiting, ¬ RequestQueue.isFor spec.name x = true :=
        List.find?_eq_none.1 (Option.map_eq_none_iff.1 found)
      have kept : s.requests.erase spec.name = s.requests := by
        rw [RequestQueue.erase, List.eraseP_of_forall_not absent]
      have gone : ∀ x ∈ s.requests.waiting, x.name ≠ spec.name := by
        intro x member same
        exact absent x member (beq_iff_eq.2 same)
      rw [kept]
      exact .misses rfl gone
  | some taken =>
      obtain ⟨r, rest⟩ := taken
      obtain ⟨before, after, split, remaining, same⟩ := RequestQueue.exists_of_take? found
      obtain ⟨-, rfl⟩ := RequestQueue.take?_eq_some_iff.1 found
      have named : r.name = spec.name := beq_iff_eq.1 same
      have nodup : ((before ++ r :: after).map (·.name)).Nodup := by
        rw [← split]
        exact (List.nodup_append.1 wn).1
      obtain ⟨first, last⟩ := ne_of_nodup_names nodup
      have gone : ∀ x ∈ before ++ after, x.name ≠ spec.name := by
        rw [← named]
        exact List.forall_mem_append.2 ⟨first, last⟩
      have erased : s.requests.erase spec.name = ⟨before ++ after⟩ :=
        congrArg RequestQueue.mk remaining
      rw [erased]
      exact .strikes (l := s.ledger created) rfl split gone

end Scheduler

/-- Whatever a caller does next, it brings it further in one of these ways. -/
theorem Caller.Stands.perform [ClusterDriver δ] {number listed withdrew : Nat}
    {operation : Operation (Nat × κ)} {action : Action (Nat × κ)}
    {rest : List (Action (Nat × κ))} {reply : Option Reply} {s : Scheduler δ (Nat × κ)}
    {created : List (Notice (Nat × κ))}
    (h : Caller.Stands number ⟨operation, action :: rest, reply⟩ listed withdrew)
    (env : Surroundings) (wn : (s.ledger created).WellNamed) :
    ∃ listing withdrawing,
      Caller.Stands number ⟨operation, (s.perform env action).1 ++ rest, action.reply?.or reply⟩
        (listed + listing) (withdrew + withdrawing) ∧
      Ledger.Effect operation (s.ledger created)
        ((s.perform env action).2.ledger (created ++ s.created env action))
        (s.takenBack action) listing withdrawing := by
  have quiet {action : Action (Nat × κ)} (h : action.isQuiet = true)
      (none : s.takenBack action = []) : Ledger.Effect operation (s.ledger created)
        ((s.perform env action).2.ledger (created ++ s.created env action))
        (s.takenBack action) 0 0 := by
    rw [Scheduler.ledger_perform_of_quiet env s h, none]
    exact .moves .refl
  cases h with
  | apart other left =>
      obtain ⟨first, others⟩ := List.forall_mem_cons.1 left
      have none : s.takenBack action = [] := by
        cases action <;> first | rfl | cases first
      refine ⟨0, 0, .apart other ?_, ?_⟩
      · exact List.forall_mem_append.2 ⟨s.isIntake_of_mem_perform env action first, others⟩
      · rw [none]
        exact .moves (Scheduler.leads_perform env first wn)
  | comes spec callback =>
      obtain ⟨e, done⟩ | ⟨free, done⟩ := s.enlist_cases ⟨spec, (number, callback)⟩
      · refine ⟨0, 0, ?_, ?_⟩
        · rw [Scheduler.perform, done]
          exact .isTurnedAway spec callback e
        · simp only [Scheduler.created, Scheduler.perform, done, tells_answer_cons, tells_nil,
            List.drop_length, List.append_nil]
          exact .moves .refl
      · refine ⟨1, 0, ?_, ?_⟩
        · rw [Scheduler.perform, done]
          exact .connects spec callback
        · have new : (⟨Scheduler.constrain s.settings spec, (number, callback)⟩ : Request (Nat × κ)).name ∉
              (s.ledger created).names := by
            rw [← Scheduler.isTaken_iff, Request.name, Scheduler.name_constrain]
            exact Bool.eq_false_iff.1 free
          have silent (worker : TaskId) :
              tells [.connect worker] = ([] : List (Notice (Nat × κ))) := rfl
          simp only [Scheduler.created, Scheduler.perform, done, silent, List.drop_length,
            List.append_nil]
          exact .lists rfl rfl (Scheduler.name_constrain _ _) new
  | isTurnedAway spec callback e =>
      exact ⟨0, 0, .wasTurnedAway spec callback e, quiet rfl rfl⟩
  | connects spec callback =>
      obtain done | ⟨attempts, last, done⟩ := s.connect_cases spec.name
      · refine ⟨0, 0, ?_, quiet rfl rfl⟩
        rw [Scheduler.perform, done]
        exact .isServed spec callback
      · refine ⟨0, 0, ?_, quiet rfl rfl⟩
        rw [Scheduler.perform, done]
        exact .fails spec callback _
  | isServed spec callback => exact ⟨0, 0, .wasServed spec callback, quiet rfl rfl⟩
  | fails spec callback e =>
      refine ⟨0, 1, .isRefused spec callback e, ?_⟩
      simp only [Scheduler.created, Scheduler.perform, tells_answer_cons, tells_nil,
        List.drop_length, List.append_nil]
      exact Scheduler.effect_erase wn
  | isRefused spec callback e => exact ⟨0, 0, .wasRefused spec callback e, quiet rfl rfl⟩

/-! ## The books of a crowd -/

namespace Crowd

def operations (c : Crowd δ κ) : List (Operation (Nat × κ)) := c.callers.map (·.operation)

/-- Somebody has asked for a worker of this name, to be called back with this. -/
def Asks (c : Crowd δ κ) (callback : Nat × κ) (worker : TaskId) : Prop :=
  ∃ spec, c.operations[callback.1]? = some (.request spec callback) ∧ spec.name = worker

def ledger (c : Crowd δ κ) : Ledger (Nat × κ) := c.scheduler.ledger c.created

/-- How far the caller of a number has come, if it has come at all. -/
def Stands (c : Crowd δ κ) (number listed withdrew : Nat) : Prop :=
  (∃ caller, c.callers[number]? = some caller ∧ caller.Stands number listed withdrew) ∨
    c.callers.length ≤ number ∧ listed = 0 ∧ withdrew = 0

/-- Everything is on record under the name for which it was asked, and the books of everybody are
in order. -/
structure Sound (c : Crowd δ κ) : Prop where
  wellNamed : c.ledger.WellNamed
  named : c.ledger.All c.Asks
  books : ∀ number, ∃ listed withdrew, c.Stands number listed withdrew ∧
    c.ledger.Books number listed withdrew c.withdrawals

variable {c : Crowd δ κ}

theorem sound_new (settings : SchedulerSettings) (session : Session δ) :
    (⟨.new settings session, [], [], [], []⟩ : Crowd δ κ).Sound where
  wellNamed := Scheduler.wellNamed_new settings session []
  named := ⟨List.forall_mem_nil _, List.forall_mem_nil _, List.forall_mem_nil _⟩
  books _ := ⟨0, 0, .inr ⟨Nat.zero_le _, rfl, rfl⟩,
    ⟨0, ⟨rfl, Nat.le_refl _, fun _ => .nil⟩, rfl⟩, rfl, fun _ => List.forall_mem_nil _⟩

theorem Asks.mono {d : Crowd δ κ} {callback : Nat × κ} {worker : TaskId}
    (h : c.Asks callback worker) (grown : c.operations <+: d.operations) :
    d.Asks callback worker := by
  obtain ⟨spec, asked, named⟩ := h
  obtain ⟨more, grown⟩ := grown
  refine ⟨spec, ?_, named⟩
  rw [← grown, List.getElem?_append_left (List.getElem?_eq_some_iff.1 asked).1, asked]

theorem Sound.enter (h : c.Sound) (operation : Operation κ) : (c.enter operation).Sound := by
  have grown : c.operations <+: (c.enter operation).operations := by
    simp [operations, Crowd.enter]
  refine ⟨h.wellNamed, h.named.mono fun _ _ asks => asks.mono grown, ?_⟩
  intro number
  obtain ⟨listed, withdrew, stands, books⟩ := h.books number
  refine ⟨listed, withdrew, ?_, books⟩
  obtain ⟨caller, found, stands⟩ | ⟨later, rfl, rfl⟩ := stands
  · left
    refine ⟨caller, ?_, stands⟩
    rw [Crowd.enter, List.getElem?_append_left (List.getElem?_eq_some_iff.1 found).1, found]
  · by_cases now : number = c.callers.length
    · subst now
      left
      refine ⟨_, ?_, Caller.stands_new c.scheduler.settings c.callers.length operation⟩
      rw [Crowd.enter, List.getElem?_concat_length]
    · right
      refine ⟨?_, rfl, rfl⟩
      rw [Crowd.enter, List.length_append, List.length_singleton]
      omega

theorem Stands.le {number listed withdrew : Nat} (h : c.Stands number listed withdrew) :
    withdrew ≤ listed ∧ listed ≤ 1 := by
  obtain ⟨caller, -, stands⟩ | ⟨-, rfl, rfl⟩ := h
  · exact stands.le
  · exact ⟨Nat.le_refl _, Nat.zero_le _⟩

variable [ClusterDriver δ]

theorem operations_act (env : Surroundings) {before after : List (Caller (Nat × κ))}
    {operation : Operation (Nat × κ)} {action : Action (Nat × κ)} {rest : List (Action (Nat × κ))}
    {reply : Option Reply}
    (at_ : c.callers = before ++ ⟨operation, action :: rest, reply⟩ :: after) :
    (c.act env before.length operation action rest reply).operations = c.operations := by
  rw [operations, callers_act env at_, operations, at_]
  simp

theorem Sound.act (h : c.Sound) (env : Surroundings) {before after : List (Caller (Nat × κ))}
    {operation : Operation (Nat × κ)} {action : Action (Nat × κ)} {rest : List (Action (Nat × κ))}
    {reply : Option Reply}
    (at_ : c.callers = before ++ ⟨operation, action :: rest, reply⟩ :: after) :
    (c.act env before.length operation action rest reply).Sound := by
  have callers := callers_act env at_
  have operations := operations_act env at_
  have found : c.callers[before.length]? = some ⟨operation, action :: rest, reply⟩ := by
    simp [at_]
  obtain ⟨listed, withdrew, stands, books⟩ := h.books before.length
  obtain ⟨caller, same, stands⟩ | ⟨later, -, -⟩ := stands
  swap
  · rw [at_, List.length_append, List.length_cons] at later
    omega
  obtain rfl : (⟨operation, action :: rest, reply⟩ : Caller (Nat × κ)) = caller :=
    Option.some.inj (found.symm.trans same)
  obtain ⟨listing, withdrawing, further, effect⟩ := stands.perform env h.wellNamed
  have own {spec : WorkerSpec Float} {callback : Nat × κ}
      (asked : operation = .request spec callback) : callback.1 = before.length :=
    stands.number_eq asked
  have asks {spec : WorkerSpec Float} {callback : Nat × κ}
      (asked : operation = .request spec callback) : c.Asks callback spec.name := by
    refine ⟨spec, ?_, rfl⟩
    rw [Crowd.operations, List.getElem?_map, own asked, found, Option.map_some, asked]
  refine ⟨?_, ?_, ?_⟩
  · exact h.wellNamed.becomes (Scheduler.becomes_perform env action h.wellNamed)
  · refine Ledger.All.mono (P := c.Asks) ?_ fun _ _ asked => asked.mono (operations ▸ List.prefix_rfl)
    exact h.named.effect effect fun asked => asks asked
  · intro number
    by_cases now : before.length = number
    · subst now
      refine ⟨listed + listing, withdrew + withdrawing, .inl ⟨_, ?_, further⟩, ?_⟩
      · rw [callers]
        simp
      · refine books.of_own stands.le.2 effect (fun _ _ => own) ?_ ?_
        · intro r waits spec callback asked same
          obtain ⟨own, mine, named⟩ := h.named.waiting r waits
          rw [Crowd.operations, List.getElem?_map, same, found, Option.map_some, asked] at mine
          cases mine
          exact named.symm
        · intro one
          have le := further.le
          have before := stands.le
          omega
    · obtain ⟨listed, withdrew, stands, books⟩ := h.books number
      refine ⟨listed, withdrew, ?_, books.of_other stands.le.2 effect (fun _ _ => own) now⟩
      rw [Crowd.Stands, Crowd.act]
      rw [List.getElem?_set_ne now, List.length_set]
      exact stands

theorem Sound.turn (h : c.Sound) (t : Turn κ) : (c.turn t).Sound :=
  turn_preserves h t (fun operation _ => h.enter operation)
    fun env _ _ _ _ _ _ _ at_ => h.act env at_

theorem sound_after (settings : SchedulerSettings) (session : Session δ) (turns : List (Turn κ)) :
    (after (.new settings session) turns).Sound :=
  after_preserves (sound_new settings session) (fun _ t h => h.turn t) turns

end Crowd

end OfferDispatch
