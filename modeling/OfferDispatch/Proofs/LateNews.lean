import OfferDispatch.Proofs.CrowdBooks
import OfferDispatch.Proofs.Sources

/-!
# News that comes too late

A caller that applies a status tells the host only afterwards that its worker runs. In between,
others may act. As long as the statuses of a task come one after another, nobody else applies the
one that ends it; but supervision may find that there are no nodes and give up the task. Whoever
releases what supervision has left may then tell the host that its worker has failed before the
caller gets to tell it that it runs.

This is the only way in which a host hears that its worker runs after it has heard that it ended.
-/

namespace OfferDispatch

variable {δ κ : Type}

/-- Is the caller at a status of the task, and not done yet? -/
def Caller.isAt (caller : Caller κ) (task : TaskId) : Bool :=
  match caller.operation with
  | .status status => status.task == task && !caller.left.isEmpty
  | _ => false

theorem Caller.isAt_of_status {caller : Caller κ} {status : TaskStatus}
    (asked : caller.operation = .status status) (busy : caller.left ≠ []) :
    caller.isAt status.task = true := by
  simp [isAt, asked, busy]

/-- Whoever goes on has been at the same task before. -/
theorem Caller.isAt_of_isAt {operation : Operation κ} {action : Action κ}
    {left rest : List (Action κ)} {first later : Option Reply} {task : TaskId}
    (h : (⟨operation, left, later⟩ : Caller κ).isAt task = true) :
    (⟨operation, action :: rest, first⟩ : Caller κ).isAt task = true := by
  rw [isAt] at h ⊢
  cases operation with
  | status status => simpa using (Bool.and_eq_true_iff.1 h).1
  | _ => cases h

/-- The status with which somebody comes. -/
def Crowd.Turn.status? : Crowd.Turn κ → Option TaskStatus
  | .enter (.status status) => some status
  | _ => none

namespace Crowd

/-- What a caller is about to do. -/
def next? (c : Crowd δ κ) (number : Nat) : Option (Action (Nat × κ)) :=
  c.callers[number]?.bind (·.left.head?)

/-- What the host of a request has been told, the oldest first. -/
def heard (c : Crowd δ κ) (number : Nat) : List NoticeKind :=
  (c.told.filter fun n => isOf number n.callback).map (·.kind)

/-- Nobody hears that a worker runs after hearing that it has ended. -/
def Orderly (kinds : List NoticeKind) : Prop :=
  kinds.Pairwise fun earlier later => ¬ (earlier.isEnd = true ∧ later = .running)

instance (kinds : List NoticeKind) : Decidable (Orderly kinds) :=
  inferInstanceAs (Decidable (kinds.Pairwise _))

/-- The end of the worker has come about. -/
def HasEnded (c : Crowd δ κ) (number : Nat) : Prop :=
  ∃ n ∈ c.created, isOf number n.callback = true ∧ n.kind.isEnd = true

/-- It is on the way to the host that its worker runs. -/
def Heralds (c : Crowd δ κ) (number : Nat) : Prop :=
  ∃ n ∈ c.onTheWay, isOf number n.callback = true ∧ n.kind = .running

/-- In this turn, supervision finds no nodes and gives up the task of a request while it is on the
way to the host that its worker runs. -/
def Overruns (c : Crowd δ κ) (number : Nat) (t : Turn κ) : Prop :=
  ∃ env supervisor, t = .proceed env supervisor ∧ env.nodes = 0 ∧
    (c.next? supervisor = some .supervise ∨ c.next? supervisor = some .inspect) ∧
    c.scheduler.session.running = true ∧
    (∃ l ∈ c.scheduler.tracker.live, isOf number l.request.callback = true) ∧ c.Heralds number

/-- No two callers are at statuses of the same task. -/
def OneByOne (callers : List (Caller κ)) : Prop :=
  callers.Pairwise fun first second => ∀ task, first.isAt task = true → second.isAt task = false

/-- How a caller goes about statuses. -/
structure Attends (caller : Caller (Nat × κ)) : Prop where
  /-- A status is applied first, and by whoever came with it. -/
  applies : (∃ status, caller.operation = .status status ∧ caller.left = [.apply status]) ∨
    ∀ status, .apply status ∉ caller.left
  /-- Whoever is to tell that a worker runs came with a status of its task. -/
  heralds : ∀ n ∈ tells caller.left, n.kind = .running →
    ∃ status, caller.operation = .status status ∧ status.task = n.place.worker

theorem attends_new (settings : SchedulerSettings) (o : Operation (Nat × κ)) :
    Attends ⟨o, o.agenda settings, none⟩ := by
  refine ⟨?_, by simp [tells_agenda]⟩
  cases o with
  | status status => exact .inl ⟨status, rfl, rfl⟩
  | offers delivered =>
      right
      intro status
      simp only [Operation.agenda, List.mem_append, not_or]
      refine ⟨⟨⟨?_, by simp⟩, ?_⟩, by simp⟩
      · split <;> simp
      · split <;> simp
  | _ => exact .inr (by simp [Operation.agenda])

section

variable [ClusterDriver δ]

theorem Attends.perform {operation : Operation (Nat × κ)} {action : Action (Nat × κ)}
    {rest : List (Action (Nat × κ))} {reply later : Option Reply} {s : Scheduler δ (Nat × κ)}
    (h : Attends ⟨operation, action :: rest, reply⟩) (env : Surroundings)
    (ended : ∀ n ∈ s.deferred, n.kind.isEnd = true) :
    Attends ⟨operation, (s.perform env action).1 ++ rest, later⟩ := by
  constructor
  · right
    intro status member
    obtain follows | last := List.mem_append.1 member
    · have initial := Scheduler.isInitial_of_mem_perform follows
      cases initial
    · obtain ⟨first, -, only⟩ | none := h.applies
      · obtain ⟨-, rfl⟩ := List.cons.inj only
        cases last
      · exact none status (List.mem_cons_of_mem _ last)
  · intro n member running
    rw [tells_append] at member
    obtain follows | last := List.mem_append.1 member
    · obtain ⟨status, rfl, named, -⟩ := Scheduler.apply_of_running_mem_tells ended follows running
      obtain ⟨first, asked, only⟩ | none := h.applies
      · cases only
        exact ⟨status, asked, named.symm⟩
      · exact absurd List.mem_cons_self (none status)
    · refine h.heralds n ?_ running
      rw [tells_cons]
      exact List.mem_append_right _ last

end

/-- How a crowd goes about statuses. -/
structure Attentive (c : Crowd δ κ) : Prop where
  /-- All that is deferred is that workers have ended. -/
  ended : ∀ n ∈ c.scheduler.deferred, n.kind.isEnd = true
  callers : ∀ caller ∈ c.callers, Attends caller
  oneByOne : OneByOne c.callers

variable [ClusterDriver δ]

/-- Nobody comes with a status while another caller is at one of the same task. -/
def InTurn (s : Scheduler δ (Nat × κ)) (turns : List (Turn κ)) : Prop :=
  ∀ before t later status, turns = before ++ t :: later → t.status? = some status →
    ∀ caller ∈ (after s before).callers, caller.isAt status.task = false

theorem inTurn_iff {s : Scheduler δ (Nat × κ)} {turns : List (Turn κ)} :
    InTurn s turns ↔ ∀ (k : Nat) (h : k < turns.length), ∀ status ∈ turns[k].status?,
      ∀ caller ∈ (after s (turns.take k)).callers, caller.isAt status.task = false := by
  constructor
  · intro inTurn k h status comes
    refine inTurn (turns.take k) turns[k] (turns.drop (k + 1)) status ?_ comes
    rw [← List.drop_eq_getElem_cons h, List.take_append_drop]
  · rintro each before t later status rfl comes
    have now := each before.length (by simp) status (by simpa using comes)
    rwa [List.take_left] at now

instance (s : Scheduler δ (Nat × κ)) (turns : List (Turn κ)) : Decidable (InTurn s turns) :=
  decidable_of_iff _ inTurn_iff.symm

/-- At some point, the task of the request was given up while the notice that it runs was on the
way. -/
def Overrun (s : Scheduler δ (Nat × κ)) (turns : List (Turn κ)) (number : Nat) : Prop :=
  ∃ before t later, turns = before ++ t :: later ∧ (after s before).Overruns number t

variable {c : Crowd δ κ} {s : Scheduler δ (Nat × κ)} {turns : List (Turn κ)} {t : Turn κ}
  {number : Nat}

theorem InTurn.of_concat (h : InTurn s (turns ++ [t])) : InTurn s turns := by
  rintro before u later status rfl
  exact h before u (later ++ [t]) status (by simp)

theorem Overrun.concat (h : Overrun s turns number) : Overrun s (turns ++ [t]) number := by
  obtain ⟨before, u, later, rfl, overruns⟩ := h
  exact ⟨before, u, later ++ [t], by simp, overruns⟩

theorem Attentive.act (h : c.Attentive) (env : Surroundings) {before after : List (Caller (Nat × κ))}
    {operation : Operation (Nat × κ)} {action : Action (Nat × κ)} {rest : List (Action (Nat × κ))}
    {reply : Option Reply}
    (at_ : c.callers = before ++ ⟨operation, action :: rest, reply⟩ :: after) :
    (c.act env before.length operation action rest reply).Attentive := by
  have callers := callers_act env at_
  refine ⟨fun n => Scheduler.isEnd_of_mem_deferred h.ended, ?_, ?_⟩
  · have each := h.callers
    rw [at_, forall_mem_middle] at each
    rw [callers, forall_mem_middle]
    exact ⟨each.1.perform env h.ended, each.2⟩
  · have apart := h.oneByOne
    rw [callers]
    rw [at_] at apart
    simp only [OneByOne, List.pairwise_append, List.pairwise_cons, List.forall_mem_cons] at apart ⊢
    obtain ⟨first, ⟨next, last⟩, across⟩ := apart
    refine ⟨first, ⟨?_, last⟩, ?_⟩
    · intro other member task busy
      exact next other member task (Caller.isAt_of_isAt busy)
    · intro other member
      refine ⟨?_, (across other member).2⟩
      intro task busy
      by_contra both
      have before := (across other member).1 task busy
      rw [Caller.isAt_of_isAt (Bool.not_eq_false _ ▸ both)] at before
      cases before

omit [ClusterDriver δ] in
theorem Attentive.enter (h : c.Attentive) (operation : Operation κ)
    (free : ∀ status, operation = .status status → ∀ caller ∈ c.callers,
      caller.isAt status.task = false) :
    (c.enter operation).Attentive := by
  refine ⟨h.ended, ?_, ?_⟩
  · rw [Crowd.enter, List.forall_mem_append]
    exact ⟨h.callers, List.forall_mem_singleton.2 (attends_new _ _)⟩
  · rw [OneByOne, Crowd.enter, List.pairwise_append]
    refine ⟨h.oneByOne, List.pairwise_singleton _ _, ?_⟩
    intro caller member new last task busy
    obtain rfl := List.mem_singleton.1 last
    cases operation with
    | status status =>
        have other : status.task ≠ task := by
          rintro rfl
          rw [free status rfl caller member] at busy
          cases busy
        simp [Caller.isAt, Operation.map, other]
    | _ => rfl

theorem attentive_after (none : s.deferred = []) (inTurn : InTurn s turns) :
    (after s turns).Attentive := by
  induction turns using List.reverseRecOn with
  | nil =>
      refine ⟨?_, List.forall_mem_nil _, .nil⟩
      intro n member
      rw [show (after s []).scheduler.deferred = [] from none] at member
      cases member
  | append_singleton turns t ih =>
      have before := ih inTurn.of_concat
      rw [after_concat]
      refine turn_preserves before t ?_ ?_
      · rintro operation rfl
        refine before.enter operation ?_
        rintro status rfl
        exact inTurn turns _ [] status rfl rfl
      · intro env first operation action rest reply last _ at_
        exact before.act env at_

/-! ## Ends and heralds -/

omit [ClusterDriver δ] in
theorem Sound.exists_accounts (h : c.Sound) (number : Nat) :
    ∃ count ≤ 1, c.ledger.Accounts (isOf number) count := by
  obtain ⟨listed, withdrew, stands, books⟩ := h.books number
  obtain ⟨count, accounts, sum⟩ := books.accounts
  have le := stands.le.2
  exact ⟨count, by omega, accounts⟩

omit [ClusterDriver δ] in
/-- Whatever is on record for the request of a number is on record under one name. -/
theorem Asks.unique {first second : Nat × κ} {one other : TaskId} (h : c.Asks first one)
    (h' : c.Asks second other) (same : first.1 = second.1) : one = other := by
  obtain ⟨spec, asked, rfl⟩ := h
  obtain ⟨spec', asked', rfl⟩ := h'
  rw [same, asked'] at asked
  cases asked
  rfl

omit [ClusterDriver δ] in
theorem mem_onTheWay {n : Notice (Nat × κ)} :
    n ∈ c.onTheWay ↔ ∃ caller ∈ c.callers, n ∈ tells caller.left := List.mem_flatMap

omit [ClusterDriver δ] in
/-- A request of which a notice has come about waits no more. -/
theorem Sound.not_waits (h : c.Sound) {n : Notice (Nat × κ)} (created : n ∈ c.created)
    (own : isOf number n.callback = true) :
    ∀ r ∈ c.scheduler.requests.waiting, isOf number r.callback = false := by
  obtain ⟨count, single, accounts⟩ := h.exists_accounts number
  have total := accounts.total
  have announced := accounts.announced
  have known : n.kind ∈ c.ledger.kinds (isOf number) :=
    List.mem_map.2 ⟨n, List.mem_filter.2 ⟨created, own⟩, rfl⟩
  have some_ : 0 < (c.ledger.kinds (isOf number)).countP (·.isEnd) ∨
      0 < (c.ledger.kinds (isOf number)).countP (!·.isEnd) := by
    rw [List.countP_pos_iff, List.countP_pos_iff]
    cases last : n.kind.isEnd with
    | true => exact .inl ⟨n.kind, known, last⟩
    | false => exact .inr ⟨n.kind, known, by rw [last]; rfl⟩
  have none : c.ledger.awaiting (isOf number) = 0 := by omega
  intro r waits
  simpa using List.countP_eq_zero.1 none r waits

/-- After the end of a worker it does not come about that it runs. -/
theorem Sound.not_running_of_hasEnded (h : c.Sound) (env : Surroundings)
    {before after : List (Caller (Nat × κ))} {operation : Operation (Nat × κ)}
    {action : Action (Nat × κ)} {rest : List (Action (Nat × κ))} {reply : Option Reply}
    (at_ : c.callers = before ++ ⟨operation, action :: rest, reply⟩ :: after)
    (ended : c.HasEnded number) {n : Notice (Nat × κ)}
    (only : c.scheduler.created env action = [n]) (own : isOf number n.callback = true) :
    n.kind ≠ .running := by
  intro running
  obtain ⟨count, single, accounts⟩ := (h.act env at_).exists_accounts number
  have ordered := accounts.ordered single
  obtain ⟨e, created, mine, last⟩ := ended
  have grown : (c.act env before.length operation action rest reply).ledger.kinds (isOf number) =
      c.ledger.kinds (isOf number) ++ [n.kind] := by
    have created : (c.act env before.length operation action rest reply).created =
      c.created ++ [n] := congrArg (c.created ++ ·) only
    have kinds := Ledger.kinds_concat (isOf number) c.ledger n
    rw [if_pos own] at kinds
    rw [← kinds, Ledger.kinds, Ledger.kinds, ledger, Scheduler.ledger, created]
    rfl
  rw [grown, List.pairwise_append] at ordered
  have earlier : e.kind ∈ c.ledger.kinds (isOf number) :=
    List.mem_map.2 ⟨e, List.mem_filter.2 ⟨created, mine⟩, rfl⟩
  have first := (ordered.2.2 _ earlier _ (List.mem_singleton_self _)).1
  rw [first] at last
  cases last

/-- What is on the way after an action was on the way before, or follows from the action. -/
theorem mem_onTheWay_act (env : Surroundings) {before after : List (Caller (Nat × κ))}
    {operation : Operation (Nat × κ)} {action : Action (Nat × κ)} {rest : List (Action (Nat × κ))}
    {reply : Option Reply}
    (at_ : c.callers = before ++ ⟨operation, action :: rest, reply⟩ :: after)
    {n : Notice (Nat × κ)}
    (way : n ∈ (c.act env before.length operation action rest reply).onTheWay) :
    n ∈ tells (c.scheduler.perform env action).1 ∨ n ∈ c.onTheWay := by
  rw [onTheWay, callers_act env at_] at way
  rw [onTheWay, at_]
  simp only [List.flatMap_append, List.flatMap_cons, List.mem_append, tells_append,
    tells_cons action rest] at way ⊢
  tauto

omit [ClusterDriver δ] in
/-- A caller that is to apply a status of the task, and one that is to tell that its worker runs,
are not there at the same time. -/
theorem Attentive.not_both (h : c.Attentive) {before after : List (Caller (Nat × κ))}
    {operation : Operation (Nat × κ)} {status : TaskStatus} {rest : List (Action (Nat × κ))}
    {reply : Option Reply}
    (at_ : c.callers = before ++ ⟨operation, .apply status :: rest, reply⟩ :: after)
    {n : Notice (Nat × κ)} (way : n ∈ c.onTheWay) (running : n.kind = .running) :
    n.place.worker ≠ status.task := by
  intro same
  obtain ⟨caller, member, tells_⟩ := mem_onTheWay.1 way
  obtain ⟨other, asked, named⟩ := (h.callers caller member).heralds n tells_ running
  have busy : caller.left ≠ [] := by
    intro nothing
    rw [nothing] at tells_
    cases tells_
  have own : Attends ⟨operation, .apply status :: rest, reply⟩ := h.callers _ (by simp [at_])
  obtain ⟨_, asks, only⟩ | none := own.applies
  swap
  · exact none status List.mem_cons_self
  obtain ⟨⟨⟩, rfl⟩ := List.cons.inj only
  have there : caller.isAt status.task = true := by
    rw [← same, ← named]
    exact Caller.isAt_of_status asked busy
  have here_ : (⟨operation, [.apply status], reply⟩ : Caller (Nat × κ)).isAt status.task = true :=
    Caller.isAt_of_status asks (List.cons_ne_nil _ _)
  have apart := h.oneByOne
  rw [at_] at apart member
  obtain ⟨-, next, across⟩ := List.pairwise_append.1 apart
  obtain earlier | here := List.mem_append.1 member
  · have free := across caller earlier _ List.mem_cons_self status.task there
    rw [here_] at free
    cases free
  obtain rfl | later := List.mem_cons.1 here
  · cases tells_
  · have free := (List.pairwise_cons.1 next).1 caller later status.task here_
    rw [there] at free
    cases free

/-- As long as it is on the way that a worker runs, it does not end, unless its task is given up. -/
theorem Sound.not_heralds_act (h : c.Sound) (attentive : c.Attentive)
    (perm : c.created.Perm c.notices) (env : Surroundings)
    {before after : List (Caller (Nat × κ))} {operation : Operation (Nat × κ)}
    {action : Action (Nat × κ)} {rest : List (Action (Nat × κ))} {reply : Option Reply}
    (at_ : c.callers = before ++ ⟨operation, action :: rest, reply⟩ :: after)
    (calm : c.HasEnded number → ¬ c.Heralds number)
    (kept : ¬ c.Overruns number (.proceed env before.length))
    (ended : (c.act env before.length operation action rest reply).HasEnded number) :
    ¬ (c.act env before.length operation action rest reply).Heralds number := by
  rintro ⟨n, later, own, running⟩
  obtain ⟨e, created, mine, last⟩ := ended
  obtain follows | way := mem_onTheWay_act env at_ later
  · obtain ⟨status, -, -, only⟩ :=
      Scheduler.apply_of_running_mem_tells attentive.ended follows running
    have earlier : e ∈ c.created := by
      obtain earlier | now := List.mem_append.1 created
      · exact earlier
      · rw [only] at now
        obtain rfl := List.mem_singleton.1 now
        rw [running] at last
        cases last
    exact h.not_running_of_hasEnded env at_ ⟨e, earlier, mine, last⟩ only own running
  · have known : n ∈ c.created := by
      rw [perm.mem_iff, notices]
      exact List.mem_append_left _ (List.mem_append_right _ way)
    have now : e ∈ c.scheduler.created env action := by
      obtain earlier | now := List.mem_append.1 created
      · exact absurd ⟨n, way, own, running⟩ (calm ⟨e, earlier, mine, last⟩)
      · exact now
    cases Scheduler.source_of_mem_created now with
    | request waits =>
        exact absurd mine (Bool.eq_false_iff.1 (h.not_waits known own _ waits))
    | status live named only =>
        have same := (h.named.created n known).unique (h.named.live _ live)
          ((beq_iff_eq.1 own).trans (beq_iff_eq.1 mine).symm)
        exact attentive.not_both at_ way running (same.trans named)
    | loss supervises none runs live =>
        refine kept ⟨env, before.length, rfl, none, ?_, runs, ⟨_, live, mine⟩,
          n, way, own, running⟩
        simpa [next?, at_] using supervises

/-- As long as the task of a request is not given up in between, it is never on the way that its
worker runs when the worker has ended. -/
theorem not_heralds_of_hasEnded (settings : SchedulerSettings) (session : Session δ)
    (inTurn : InTurn (.new settings session) turns)
    (kept : ¬ Overrun (.new settings session) turns number)
    (ended : (after (.new settings session) turns).HasEnded number) :
    ¬ (after (.new settings session) turns).Heralds number := by
  induction turns using List.reverseRecOn with
  | nil =>
      obtain ⟨n, none, -⟩ := ended
      cases none
  | append_singleton turns t ih =>
      have calm := ih inTurn.of_concat (mt Overrun.concat kept)
      have now : ¬ (after (.new settings session) turns).Overruns number t :=
        fun overruns => kept ⟨turns, t, [], rfl, overruns⟩
      rw [after_concat] at ended ⊢
      revert ended
      refine turn_preserves (P := fun c => c.HasEnded number → ¬ c.Heralds number) calm t ?_ ?_
      · intro operation _ ended
        rw [Heralds, onTheWay_enter]
        exact calm ended
      · rintro env first operation action rest reply last rfl at_ ended
        exact (sound_after settings session turns).not_heralds_act
          (attentive_after rfl inTurn.of_concat) (created_perm _ rfl turns) env at_ calm now ended

/-! ## What hosts hear -/

omit [ClusterDriver δ] in
/-- In this turn a host is told that its worker runs, though it has heard that it has ended. -/
def TellsLate (c : Crowd δ κ) (number : Nat) (t : Turn κ) : Prop :=
  ∃ env teller n, t = .proceed env teller ∧ c.next? teller = some (.tell n) ∧
    isOf number n.callback = true ∧ n.kind = .running ∧
    ∃ kind ∈ c.heard number, kind.isEnd = true

theorem heard_act (env : Surroundings) (teller : Nat) (operation : Operation (Nat × κ))
    (action : Action (Nat × κ)) (rest : List (Action (Nat × κ))) (reply : Option Reply) :
    (c.act env teller operation action rest reply).heard number =
      c.heard number ++ ((tells [action]).filter fun n => isOf number n.callback).map (·.kind) := by
  rw [heard, act, heard]
  rw [List.filter_append, List.map_append]

/-- What hosts have heard they have heard for good. -/
theorem heard_prefix_turn (c : Crowd δ κ) (t : Turn κ) :
    c.heard number <+: (c.turn t).heard number := by
  refine turn_preserves (P := fun d => c.heard number <+: d.heard number) List.prefix_rfl t ?_ ?_
  · intro operation _
    exact List.prefix_rfl
  · intro env before operation action rest reply after _ _
    rw [heard_act]
    exact List.prefix_append _ _

theorem heard_prefix (s : Scheduler δ (Nat × κ)) (turns more : List (Turn κ)) :
    (after s turns).heard number <+: (after s (turns ++ more)).heard number := by
  induction more using List.reverseRecOn with
  | nil => simp only [List.append_nil, List.prefix_rfl]
  | append_singleton more t ih =>
      rw [← List.append_assoc, after_concat]
      exact ih.trans (heard_prefix_turn _ t)

/-- What is heard in order is so after another turn, unless that tells too late. -/
theorem Orderly.turn (h : Orderly (c.heard number)) (onTime : ¬ c.TellsLate number t) :
    Orderly ((c.turn t).heard number) := by
  refine turn_preserves (P := fun d => Orderly (d.heard number)) h t (fun _ _ => h) ?_
  rintro env first operation action rest reply last rfl at_
  rw [heard_act]
  refine List.pairwise_append.2 ⟨h, ?_, ?_⟩
  · cases action with
    | tell n =>
        rw [tells_tell_cons, tells_nil, List.filter_cons]
        split
        · exact List.pairwise_singleton _ _
        · exact .nil
    | _ => exact .nil
  · rintro earlier before _ later ⟨ended, rfl⟩
    obtain ⟨n, told, running⟩ := List.mem_map.1 later
    obtain ⟨tells_, own⟩ := List.mem_filter.1 told
    cases action with
    | tell m =>
        obtain rfl := List.mem_singleton.1 tells_
        exact onTime ⟨env, first.length, n, rfl, by simp [next?, at_], own, running, earlier,
          before, ended⟩
    | _ => cases tells_

/-- Whoever tells too late tells out of order. -/
theorem TellsLate.not_orderly (h : c.TellsLate number t) :
    ¬ Orderly ((c.turn t).heard number) := by
  obtain ⟨env, teller, n, rfl, next, own, running, kind, told, last⟩ := h
  obtain ⟨⟨operation, left, reply⟩, found, head⟩ := Option.bind_eq_some_iff.1 next
  obtain ⟨rest, rfl⟩ := List.head?_eq_some_iff.1 head
  have heard : (c.turn (.proceed env teller)).heard number = c.heard number ++ [.running] := by
    rw [turn, proceed, found]
    rw [heard_act, tells_tell_cons, tells_nil, List.filter_cons, if_pos own, List.filter_nil,
      List.map_singleton, running]
  intro orderly
  rw [heard] at orderly
  exact (List.pairwise_append.1 orderly).2.2 kind told _ (List.mem_singleton_self _) ⟨last, rfl⟩

/-- However the actions of callers are mixed, as long as the statuses of each task come one after
another: a host hears that its worker runs after it has heard that the worker has ended exactly if
supervision found no nodes and gave up the task while that notice was on the way, and the notice was
told only after that of the end. -/
theorem out_of_order_iff_overrun (settings : SchedulerSettings) (session : Session δ)
    (turns : List (Turn κ)) (inTurn : InTurn (.new settings session) turns) (number : Nat) :
    ¬ Orderly ((after (.new settings session) turns).heard number) ↔
      ∃ before t later, turns = before ++ t :: later ∧
        Overrun (.new settings session) before number ∧
        (after (.new settings session) before).TellsLate number t := by
  constructor
  · intro late
    induction turns using List.reverseRecOn with
    | nil => exact absurd .nil late
    | append_singleton turns t ih =>
        by_cases orderly : Orderly ((after (.new settings session) turns).heard number)
        · have now : (after (.new settings session) turns).TellsLate number t := by
            by_contra onTime
            rw [after_concat] at late
            exact late (orderly.turn onTime)
          refine ⟨turns, t, [], rfl, ?_, now⟩
          by_contra kept
          obtain ⟨env, teller, n, -, next, own, running, kind, told, last⟩ := now
          obtain ⟨e, member, rfl⟩ := List.mem_map.1 told
          obtain ⟨member, mine⟩ := List.mem_filter.1 member
          refine not_heralds_of_hasEnded settings session inTurn.of_concat kept
            ⟨e, ?_, mine, last⟩ ⟨n, ?_, own, running⟩
          · rw [(created_perm _ rfl turns).mem_iff, notices]
            exact List.mem_append_left _ (List.mem_append_left _ member)
          · obtain ⟨caller, found, head⟩ := Option.bind_eq_some_iff.1 next
            obtain ⟨rest, left⟩ := List.head?_eq_some_iff.1 head
            refine mem_onTheWay.2 ⟨caller, List.mem_of_getElem? found, ?_⟩
            rw [left]
            exact List.mem_cons_self
        · obtain ⟨before, u, later, rfl, overrun, tells_⟩ := ih inTurn.of_concat orderly
          exact ⟨before, u, later ++ [t], by simp, overrun, tells_⟩
  · rintro ⟨before, t, later, rfl, -, tells_⟩ orderly
    have grown : (after _ (before ++ [t])).heard number <+: _ :=
      heard_prefix (.new settings session) (before ++ [t]) later
    rw [List.append_assoc, List.singleton_append, after_concat] at grown
    exact tells_.not_orderly (orderly.sublist grown.sublist)

end Crowd

namespace Plain

/-- The moment when the last node is gone. -/
def deserted : Surroundings := { moment with nodes := 0 }

/-- A worker is launched and a status of it comes in; before the host is told that it runs, somebody
gives up another worker, finds no nodes, and tells the host that the worker has failed. -/
def overtaken : List (Crowd.Turn Unit) :=
  [.enter (.request (worker "w") ()), .proceed moment 0, .proceed moment 0, .proceed moment 0,
    .enter (.process [offer "o"]), .proceed moment 1,
    .enter (.status ⟨⟨"w"⟩, .running, none⟩), .proceed moment 2,
    .enter (.cancel ⟨"v"⟩), .proceed moment 3, .proceed deserted 3, .proceed deserted 3,
    .proceed deserted 3, .proceed moment 2]

/-- The host hears that its worker has failed, and then that it runs. -/
theorem out_of_order_iff_overrun_overtaken :
    Crowd.InTurn (.new {} session) overtaken ∧
    (Crowd.after (.new {} session) overtaken).heard 0 = [.failed, .running] ∧
    ∃ before t later, overtaken = before ++ t :: later ∧
      Crowd.Overrun (.new {} session) before 0 ∧
      (Crowd.after (.new {} session) before).TellsLate 0 t := by
  have inTurn : Crowd.InTurn (.new {} session) overtaken := by decide +kernel
  have heard : (Crowd.after (.new {} session) overtaken).heard 0 = [.failed, .running] := by
    decide +kernel
  refine ⟨inTurn, heard, (Crowd.out_of_order_iff_overrun {} session overtaken inTurn 0).1 ?_⟩
  rw [heard]
  decide

end Plain

end OfferDispatch
