import OfferDispatch.Proofs.Bookkeeping
import OfferDispatch.Proofs.Callbacks

/-!
# Requests are completed once

A request that was taken in waits, or its task is live, or its host is owed the notice of its end,
and it is exactly one of these. The notice of its end may have been told or it may be deferred;
there is never a second one, and the notice that it runs comes before it or not at all.

Requests are told apart by what their hosts are called back with. So the accounts are kept of all
requests whose callbacks are singled out by some test, and only in the end is it that of one
request.
-/

namespace OfferDispatch

variable {δ κ : Type}

namespace Ledger

section

variable (mine : κ → Bool) (l : Ledger κ)

/-- How many of the requests singled out wait. -/
def awaiting : Nat := l.waiting.countP fun r => mine r.callback

/-- How many of them have a live task. -/
def active : Nat := l.live.countP fun t => mine t.request.callback

/-- How many of them have a live task that was not announced as running. -/
def unannounced : Nat := l.live.countP fun t => mine t.request.callback && !t.announced

/-- What kinds of notices have come about for them, the oldest first. -/
def kinds : List NoticeKind := (l.created.filter fun n => mine n.callback).map (·.kind)

end

/-- The accounts of the requests singled out are in order, if so many of them were taken in. -/
structure Accounts (mine : κ → Bool) (count : Nat) (l : Ledger κ) : Prop where
  /-- Each waits, has a live task, or has ended. -/
  total : l.awaiting mine + l.active mine + (l.kinds mine).countP (·.isEnd) = count
  /-- Each can be announced as running at most once. -/
  announced : l.awaiting mine + l.unannounced mine + (l.kinds mine).countP (!·.isEnd) ≤ count
  /-- A single one is announced as running before it ends. -/
  ordered : count ≤ 1 →
    (l.kinds mine).Pairwise fun earlier later => earlier = .running ∧ later.isEnd = true

variable {mine : κ → Bool} {count : Nat} {l m : Ledger κ}

theorem kinds_concat (mine : κ → Bool) (l : Ledger κ) (notice : Notice κ) :
    kinds mine { l with created := l.created ++ [notice] } =
      l.kinds mine ++ if mine notice.callback then [notice.kind] else [] := by
  by_cases own : mine notice.callback = true <;> simp [kinds, own]

theorem eq_running_of_countP {kinds : List NoticeKind} (none : kinds.countP (·.isEnd) = 0) :
    ∀ kind ∈ kinds, kind = .running := by
  intro kind member
  have open_ := List.countP_eq_zero.1 none kind member
  cases kind with
  | running => rfl
  | finished | failed => exact absurd rfl open_

/-- A notice of an end comes last, if one of the requests was still open. -/
theorem Accounts.ordered_end (a : Accounts mine count l)
    (least : 0 < l.awaiting mine + l.active mine) {kind : NoticeKind} (last : kind.isEnd = true)
    (single : count ≤ 1) :
    (l.kinds mine ++ [kind]).Pairwise fun earlier later =>
      earlier = .running ∧ later.isEnd = true := by
  have open_ : (l.kinds mine).countP (·.isEnd) = 0 := by
    have := a.total
    omega
  refine List.pairwise_append.2 ⟨a.ordered single, List.pairwise_singleton _ _, ?_⟩
  intro earlier member later new
  rw [List.mem_singleton.1 new]
  exact ⟨eq_running_of_countP open_ earlier member, last⟩

/-- A notice that a task runs comes first, if the task was not announced. -/
theorem Accounts.eq_nil_of_unannounced (a : Accounts mine count l)
    (new : 0 < l.unannounced mine) (single : count ≤ 1) : l.kinds mine = [] := by
  have live : l.unannounced mine ≤ l.active mine := by
    refine List.countP_mono_left ?_
    intro t _ both
    exact (Bool.and_eq_true_iff.1 both).1
  have total := a.total
  have announced := a.announced
  refine List.eq_nil_iff_forall_not_mem.2 ?_
  intro kind member
  have ended : (l.kinds mine).countP (·.isEnd) = 0 := by omega
  have told : (l.kinds mine).countP (!·.isEnd) = 0 := by omega
  have first := List.countP_eq_zero.1 ended kind member
  have second := List.countP_eq_zero.1 told kind member
  simp_all

/-- The accounts stay in order when no notice is written of a request that is singled out. -/
theorem Accounts.of_silent (a : Accounts mine count l)
    (kept : m.awaiting mine + m.active mine = l.awaiting mine + l.active mine)
    (open_ : m.awaiting mine + m.unannounced mine ≤ l.awaiting mine + l.unannounced mine)
    (kinds : m.kinds mine = l.kinds mine) : Accounts mine count m := by
  have total := a.total
  have announced := a.announced
  refine ⟨?_, ?_, ?_⟩
  · rw [kinds]
    omega
  · rw [kinds]
    omega
  · rw [kinds]
    exact a.ordered

/-- The accounts stay in order when a request that is singled out ends. -/
theorem Accounts.of_end (a : Accounts mine count l)
    (gone : m.awaiting mine + m.active mine + 1 = l.awaiting mine + l.active mine)
    (open_ : m.awaiting mine + m.unannounced mine ≤ l.awaiting mine + l.unannounced mine)
    {kind : NoticeKind} (last : kind.isEnd = true) (kinds : m.kinds mine = l.kinds mine ++ [kind]) :
    Accounts mine count m := by
  have total := a.total
  have announced := a.announced
  refine ⟨?_, ?_, ?_⟩
  · rw [kinds, List.countP_append, List.countP_singleton, if_pos last]
    omega
  · rw [kinds, List.countP_append, List.countP_singleton, if_neg (by simp [last])]
    omega
  · intro single
    rw [kinds]
    exact a.ordered_end (by omega) last single

/-- The accounts stay in order when a task that is singled out is announced as running. -/
theorem Accounts.of_running (a : Accounts mine count l) (new : 0 < l.unannounced mine)
    (kept : m.awaiting mine + m.active mine = l.awaiting mine + l.active mine)
    (open_ : m.awaiting mine + m.unannounced mine + 1 = l.awaiting mine + l.unannounced mine)
    (kinds : m.kinds mine = l.kinds mine ++ [.running]) : Accounts mine count m := by
  have total := a.total
  have announced := a.announced
  have goes_on : NoticeKind.running.isEnd = false := rfl
  refine ⟨?_, ?_, ?_⟩
  · rw [kinds, List.countP_append, List.countP_singleton, if_neg (by simp [goes_on])]
    omega
  · rw [kinds, List.countP_append, List.countP_singleton, if_pos (by simp [goes_on])]
    omega
  · intro single
    rw [kinds, a.eq_nil_of_unannounced new single]
    exact List.pairwise_singleton _ _

theorem Accounts.fail {before after : List (Request κ)} {r : Request κ}
    (a : Accounts mine count l) (at_ : l.waiting = before ++ r :: after) :
    Accounts mine count { l with
      waiting := before ++ after
      created := l.created ++ [r.failed] } := by
  have grown := kinds_concat mine l r.failed
  rw [show r.failed.callback = r.callback from rfl] at grown
  by_cases own : mine r.callback = true
  · rw [if_pos own] at grown
    refine a.of_end ?_ ?_ (show NoticeKind.failed.isEnd = true from rfl) grown
    · simp only [awaiting, active, at_, List.countP_append, List.countP_cons, if_pos own]
      omega
    · simp only [awaiting, unannounced, at_, List.countP_append, List.countP_cons, if_pos own]
      omega
  · rw [if_neg own, List.append_nil] at grown
    have kept : (before ++ after).countP (fun r => mine r.callback) = l.awaiting mine := by
      simp [awaiting, at_, own]
    refine a.of_silent ?_ ?_ grown
    · exact congrArg (· + l.active mine) kept
    · exact Nat.le_of_eq (congrArg (· + l.unannounced mine) kept)

theorem Accounts.launch {before after : List (Request κ)} {r : Request κ} (offer : OfferId)
    (agent : AgentId) (a : Accounts mine count l) (at_ : l.waiting = before ++ r :: after) :
    Accounts mine count { l with
      waiting := before ++ after
      live := l.live ++ [.launched offer agent r]
      launched := l.launched ++ [r.name] } := by
  refine a.of_silent ?_ ?_ rfl
  · simp only [awaiting, active, at_, List.countP_append, List.countP_cons, List.countP_nil,
      LiveTask.launched]
    omega
  · simp only [awaiting, unannounced, at_, List.countP_append, List.countP_cons, List.countP_nil,
      LiveTask.launched, Bool.not_false, Bool.and_true]
    omega

theorem Accounts.advance {before after : List (LiveTask κ)} {t : LiveTask κ} (state : TaskState)
    (a : Accounts mine count l) (at_ : l.live = before ++ t :: after) :
    Accounts mine count { l with live := before ++ { t with state := state } :: after } := by
  refine a.of_silent ?_ ?_ rfl
  · simp [awaiting, active, at_, List.countP_cons]
  · simp [awaiting, unannounced, at_, List.countP_cons]

theorem Accounts.announce {before after : List (LiveTask κ)} {t : LiveTask κ} (state : TaskState)
    (a : Accounts mine count l) (new : t.announced = false)
    (at_ : l.live = before ++ t :: after) :
    Accounts mine count { l with
      live := before ++ { t with state := state, announced := true } :: after
      created := l.created ++ [t.notice .running] } := by
  have grown := kinds_concat mine l (t.notice .running)
  rw [show (t.notice .running).callback = t.request.callback from rfl] at grown
  by_cases own : mine t.request.callback = true
  · rw [if_pos own] at grown
    have live : 0 < l.unannounced mine :=
      List.countP_pos_iff.2 ⟨t, by simp [at_], by simp [own, new]⟩
    refine a.of_running live ?_ ?_ grown
    · simp [awaiting, active, at_, List.countP_cons]
    · simp only [awaiting, unannounced, at_, List.countP_append, List.countP_cons, own, new]
      simp +arith
  · rw [if_neg own, List.append_nil] at grown
    refine a.of_silent ?_ ?_ grown
    · simp [awaiting, active, at_, List.countP_cons]
    · simp [awaiting, unannounced, at_, own]

theorem Accounts.finish {before after : List (LiveTask κ)} {t : LiveTask κ} {kind : NoticeKind}
    (ending : Ending) (a : Accounts mine count l) (last : kind.isEnd = true)
    (at_ : l.live = before ++ t :: after) :
    Accounts mine count { l with
      live := before ++ after
      retired := l.retired ++ [(t.id, ending)]
      created := l.created ++ [t.notice kind] } := by
  have grown := kinds_concat mine l (t.notice kind)
  rw [show (t.notice kind).callback = t.request.callback from rfl] at grown
  by_cases own : mine t.request.callback = true
  · rw [if_pos own] at grown
    refine a.of_end ?_ ?_ last grown
    · simp only [awaiting, active, at_, List.countP_append, List.countP_cons, if_pos own]
      omega
    · simp only [awaiting, unannounced, at_, List.countP_append, List.countP_cons]
      omega
  · rw [if_neg own, List.append_nil] at grown
    refine a.of_silent ?_ ?_ grown
    · simp [awaiting, active, at_, own]
    · simp [awaiting, unannounced, at_, own]

/-- Moves leave the accounts in order. -/
theorem Accounts.move (a : Accounts mine count l) (h : Move l m) : Accounts mine count m := by
  cases h with
  | fail at_ => exact a.fail at_
  | launch offer agent at_ => exact a.launch offer agent at_
  | advance state at_ => exact a.advance state at_
  | announce state new at_ => exact a.announce state new at_
  | finish ending last at_ => exact a.finish ending last at_
  | forget => exact a.of_silent rfl (Nat.le_refl _) rfl

theorem Accounts.leads (a : Accounts mine count l) (h : Leads l m) : Accounts mine count m := by
  induction h with
  | refl => exact a
  | tail _ move ih => exact ih.move move

/-- A request that is singled out is taken in. -/
theorem Accounts.enlist {r : Request κ} (a : Accounts mine count l)
    (own : mine r.callback = true) : Accounts mine (count + 1) (l.enlist r) := by
  have total := a.total
  have announced := a.announced
  have more : (l.enlist r).awaiting mine = l.awaiting mine + 1 := by
    simp [awaiting, Ledger.enlist, own]
  have others : (l.enlist r).kinds mine = l.kinds mine := rfl
  refine ⟨?_, ?_, ?_⟩
  · rw [more, others, show (l.enlist r).active mine = l.active mine from rfl]
    omega
  · rw [more, others, show (l.enlist r).unannounced mine = l.unannounced mine from rfl]
    omega
  · intro single
    rw [others]
    exact a.ordered (by omega)

theorem Accounts.enlist_other {r : Request κ} (a : Accounts mine count l)
    (other : mine r.callback = false) : Accounts mine count (l.enlist r) := by
  have same : (l.enlist r).awaiting mine = l.awaiting mine := by
    simp [awaiting, Ledger.enlist, other]
  refine a.of_silent ?_ ?_ rfl
  · exact congrArg (· + l.active mine) same
  · exact Nat.le_of_eq (congrArg (· + l.unannounced mine) same)

end Ledger

/-! ## Numbered callbacks -/

/-- Demands whose callbacks bring along the number of the demand. -/
def numbered (demands : List (Demand κ)) : List (Demand (Nat × κ)) :=
  demands.mapIdx fun i d => d.map (Prod.mk i)

def isOf (i : Nat) (callback : Nat × κ) : Bool := callback.1 == i

@[simp] theorem isRequest_map {ν : Type} (f : κ → ν) (o : Operation κ) :
    (o.map f).isRequest = o.isRequest := by
  cases o <;> rfl

theorem numbered_concat (demands : List (Demand κ)) (d : Demand κ) :
    numbered (demands ++ [d]) = numbered demands ++ [d.map (Prod.mk demands.length)] :=
  List.mapIdx_concat

namespace History

variable [ClusterDriver δ]

/-- A request was made with this number, and it was taken in. -/
def Accepted (demands : List (Demand κ)) (replies : List (Option Reply)) (i : Nat) : Prop :=
  (∃ d, demands[i]? = some d ∧ d.operation.isRequest = true) ∧ replies[i]? = some (some .done)

/-- For each number, so many requests of it were taken in, at most one. -/
structure Counts (demands : List (Demand κ)) (h : History δ (Nat × κ)) (i count : Nat) : Prop where
  accounts : h.ledger.Accounts (isOf i) count
  before : demands.length ≤ i → count = 0
  accepted : Accepted demands h.replies i → count = 1

omit [ClusterDriver δ] in
theorem accepted_concat {demands : List (Demand κ)} {d : Demand κ}
    {replies : List (Option Reply)} {reply : Option Reply} {i : Nat}
    (length : replies.length = demands.length)
    (h : Accepted (demands ++ [d]) (replies ++ [reply]) i) :
    Accepted demands replies i ∨
      i = demands.length ∧ d.operation.isRequest = true ∧ reply = some .done := by
  obtain ⟨⟨e, asked, request⟩, answered⟩ := h
  rcases Nat.lt_trichotomy i demands.length with earlier | now | later
  · left
    rw [List.getElem?_append_left earlier] at asked
    rw [List.getElem?_append_left (by omega)] at answered
    exact ⟨⟨e, asked, request⟩, answered⟩
  · right
    subst now
    rw [List.getElem?_concat_length] at asked
    rw [← length, List.getElem?_concat_length] at answered
    exact ⟨rfl, Option.some.inj asked ▸ request, Option.some.inj answered⟩
  · rw [List.getElem?_eq_none (by simp; omega)] at asked
    cases asked

/-- Each demand leaves the accounts of the requests before it in order, and opens one if it is a
request that is taken in. -/
theorem counts_ask {demands : List (Demand κ)} {h : History δ (Nat × κ)} (d : Demand κ)
    {i count : Nat} (wn : h.ledger.WellNamed) (length : h.replies.length = demands.length)
    (c : Counts demands h i count) :
    ∃ count, Counts (demands ++ [d]) (h.ask (d.map (Prod.mk demands.length))) i count := by
  have before : (demands ++ [d]).length ≤ i → count = 0 := by
    intro later
    rw [List.length_append, List.length_singleton] at later
    exact c.before (by omega)
  obtain ⟨env, operation⟩ := d
  by_cases request : operation.isRequest = true
  · cases operation with
    | request spec callback =>
        obtain ⟨e, reply, same⟩ | ⟨r, own, -, reply, written⟩ :=
          h.scheduler.request_cases env spec (demands.length, callback) h.created
        · have stays : (h.ask ⟨env, .request spec (demands.length, callback)⟩).ledger =
              h.ledger := same
          refine ⟨count, stays ▸ c.accounts, before, ?_⟩
          intro accepted
          obtain earlier | ⟨-, -, done⟩ := accepted_concat length accepted
          · exact c.accepted earlier
          · exact absurd (reply.symm.trans done) nofun
        · have grows : (h.ask ⟨env, .request spec (demands.length, callback)⟩).ledger =
              h.ledger.enlist r := written
          by_cases now : i = demands.length
          · have none : count = 0 := c.before (by omega)
            have mine : isOf i r.callback = true := by
              rw [isOf, own]
              exact beq_iff_eq.2 now.symm
            refine ⟨count + 1, grows ▸ c.accounts.enlist mine, ?_, fun _ => by omega⟩
            intro later
            rw [List.length_append, List.length_singleton] at later
            omega
          · have other : isOf i r.callback = false := by
              rw [isOf, own]
              exact beq_eq_false_iff_ne.2 (Ne.symm now)
            refine ⟨count, grows ▸ c.accounts.enlist_other other, before, ?_⟩
            intro accepted
            obtain earlier | ⟨same, -, -⟩ := accepted_concat length accepted
            · exact c.accepted earlier
            · exact absurd same now
    | _ => cases request
  · have other : (operation.map (Prod.mk demands.length)).isRequest = false := by
      rw [isRequest_map]
      exact Bool.eq_false_iff.2 request
    refine ⟨count, c.accounts.leads (Scheduler.leads_run env other wn), before, ?_⟩
    intro accepted
    obtain earlier | ⟨-, asked, -⟩ := accepted_concat length accepted
    · exact c.accepted earlier
    · exact absurd asked request

/-- After each operation, the accounts of every request are in order. -/
theorem counts_after (settings : SchedulerSettings) (session : Session δ)
    (demands : List (Demand κ)) :
    ((Scheduler.new settings session).after (numbered demands)).replies.length =
        demands.length ∧
      ∀ i, ∃ count,
        Counts demands ((Scheduler.new settings session).after (numbered demands)) i count := by
  induction demands using List.reverseRecOn with
  | nil =>
      refine ⟨rfl, fun i => ⟨0, ⟨rfl, Nat.le_refl _, fun _ => .nil⟩, fun _ => rfl, ?_⟩⟩
      rintro ⟨⟨d, asked, -⟩, -⟩
      cases asked
  | append_singleton demands d ih =>
      obtain ⟨length, counts⟩ := ih
      rw [numbered_concat, Scheduler.after_concat]
      constructor
      · simp [ask, length]
      · intro i
        obtain ⟨count, c⟩ := counts i
        exact counts_ask d (wellNamed_after settings session _) length c

/-- What has come about has been told or is deferred, each notice as often. -/
theorem created_perm (s : Scheduler δ κ) (none : s.deferred = []) (demands : List (Demand κ)) :
    (s.after demands).created.Perm
      ((s.after demands).told ++ (s.after demands).scheduler.deferred) := by
  classical
  refine List.perm_iff_count.2 ?_
  intro notice
  rw [List.count_append]
  exact countP_created s none demands _

omit [ClusterDriver δ] in
theorem countP_kinds (h : History δ (Nat × κ)) (i : Nat) :
    (h.ledger.kinds (isOf i)).countP (·.isEnd) =
      h.created.countP fun n => isOf i n.callback && n.kind.isEnd := by
  rw [Ledger.kinds, List.countP_map, List.countP_filter]
  refine List.countP_congr ?_
  intro notice _
  simp only [Function.comp_apply, Bool.and_eq_true]
  exact and_comm

omit [ClusterDriver δ] in
theorem map_snd_numbered (demands : List (Demand κ)) :
    (numbered demands).map (.map Prod.snd) = demands := by
  induction demands using List.reverseRecOn with
  | nil => rfl
  | append_singleton demands d ih =>
      have same : (d.map (Prod.mk demands.length)).map Prod.snd = d := by
        obtain ⟨env, operation⟩ := d
        cases operation <;> rfl
      rw [numbered_concat, List.map_append, ih, List.map_singleton, same]

/-- Let callbacks bring along the number of the demand; the course of events is the same without
them. Of every request that was taken in, at any time exactly one is true: it waits, its task is
live, or one notice of its end has come about, be it told or deferred. All notices that have come
about for it are in order: a single one that it runs, or none, and then that of its end. -/
theorem requests_complete_once (settings : SchedulerSettings) (session : Session δ)
    (demands : List (Demand κ)) :
    let h := (Scheduler.new settings session).after (numbered demands)
    h.map Prod.snd = (Scheduler.new settings session).after demands ∧
    h.created.Perm (h.told ++ h.scheduler.deferred) ∧
    ∀ (i : Nat) (d : Demand κ), demands[i]? = some d → d.operation.isRequest = true →
      h.replies[i]? = some (some .done) →
      h.scheduler.requests.waiting.countP (fun r => isOf i r.callback) +
          h.scheduler.tracker.live.countP (fun t => isOf i t.request.callback) +
          (h.told ++ h.scheduler.deferred).countP
            (fun n => isOf i n.callback && n.kind.isEnd) = 1 ∧
        ((h.created.filter fun n => isOf i n.callback).map (·.kind)).Pairwise
          fun earlier later => earlier = .running ∧ later.isEnd = true := by
  intro h
  have perm : h.created.Perm (h.told ++ h.scheduler.deferred) := created_perm _ rfl _
  refine ⟨?_, perm, ?_⟩
  · have course := after_map Prod.snd
      (Scheduler.new settings session : Scheduler δ (Nat × κ)) (numbered demands)
    rw [map_snd_numbered] at course
    exact course.symm
  · intro i d asked request answered
    obtain ⟨-, counts⟩ := counts_after settings session demands
    obtain ⟨count, c⟩ := counts i
    have one : count = 1 := c.accepted ⟨⟨d, asked, request⟩, answered⟩
    have total := c.accounts.total
    constructor
    · rw [countP_kinds, perm.countP_eq, one] at total
      exact total
    · exact c.accounts.ordered (by omega)

end History

namespace Plain

/-- A worker is requested and launched, it runs and it finishes. -/
def life : List (Demand Unit) :=
  [⟨moment, .request (worker "w") ()⟩, ⟨moment, .offers [offer "o"]⟩,
    ⟨moment, .status ⟨⟨"w"⟩, .running, none⟩⟩, ⟨moment, .status ⟨⟨"w"⟩, .finished, none⟩⟩]

theorem requests_complete_once_life :
    (scheduler.after (numbered life)).replies[0]? = some (some .done) ∧
    (scheduler.after (numbered life)).scheduler.requests.waiting.countP
          (fun r => isOf 0 r.callback) +
        (scheduler.after (numbered life)).scheduler.tracker.live.countP
          (fun t => isOf 0 t.request.callback) +
        ((scheduler.after (numbered life)).told ++
          (scheduler.after (numbered life)).scheduler.deferred).countP
          (fun n => isOf 0 n.callback && n.kind.isEnd) = 1 ∧
    (scheduler.after (numbered life)).told.map (·.kind) = [.running, .finished] := by
  obtain ⟨-, -, each⟩ := History.requests_complete_once {} session life
  have done : (scheduler.after (numbered life)).replies[0]? = some (some .done) := by rfl
  obtain ⟨total, -⟩ := each 0 _ rfl rfl done
  exact ⟨done, total, by rfl⟩

end Plain

end OfferDispatch
