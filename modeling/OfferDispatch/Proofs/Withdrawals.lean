import OfferDispatch.Proofs.CrowdBooks

/-!
# What a request is promised

Whoever asks for a worker is given one of two promises. If the request was taken in, it waits, or
its task is live, or it has ended and the host is owed one notice of that. If the request was
refused, nothing is ever launched for it and the host is told nothing.

A request is taken in before the session is started for it, and taken back if that fails; it is
looked for by name then. In between, others may have started the session, had the request launched,
cancelled it or asked for a worker of the same name. So the promises are kept only as long as whoever
takes back a request finds its own.
-/

namespace OfferDispatch

variable {δ κ : Type}

namespace Ledger

variable {mine : κ → Bool} {l : Ledger κ}

theorem countP_isEnd_kinds (mine : κ → Bool) (l : Ledger κ) :
    (l.kinds mine).countP (·.isEnd) =
      l.created.countP fun n => mine n.callback && n.kind.isEnd := by
  rw [kinds, List.countP_map, List.countP_filter]
  refine List.countP_congr fun notice _ => ?_
  simp only [Function.comp_apply, Bool.and_eq_true]
  exact and_comm

/-- If no requests count, none of them has a live task, and no notice of them has come about. -/
theorem Accounts.eq_nil_of_zero (a : Accounts mine 0 l) :
    (∀ t ∈ l.live, mine t.request.callback = false) ∧ ∀ n ∈ l.created, mine n.callback = false := by
  have total := a.total
  have announced := a.announced
  constructor
  · have none : l.active mine = 0 := by omega
    simpa [active, List.countP_eq_zero] using none
  · have ended : (l.kinds mine).countP (·.isEnd) = 0 := by omega
    have open_ : (l.kinds mine).countP (!·.isEnd) = 0 := by omega
    have length := List.length_eq_countP_add_countP (fun k : NoticeKind => k.isEnd) (l := l.kinds mine)
    have none : l.kinds mine = [] := by
      rw [← List.length_eq_zero_iff, length, ended]
      simpa using open_
    simpa [kinds] using none

end Ledger

namespace Crowd

/-- Whose requests were taken back. -/
def struck (c : Crowd δ κ) : List Nat := c.withdrawals.filterMap (·.2)

/-- Who has taken back a request, whosever it was. -/
def withdrew (c : Crowd δ κ) : List Nat := c.withdrawals.map (·.1)

/-- What a caller was promised about its request is so. -/
def KeepsWord (c : Crowd δ κ) (number : Nat) : Reply → Prop
  | .done =>
    c.scheduler.requests.waiting.countP (fun r => isOf number r.callback) +
      c.scheduler.tracker.live.countP (fun t => isOf number t.request.callback) +
      c.notices.countP (fun n => isOf number n.callback && n.kind.isEnd) = 1
  | .refused _ =>
    (∀ t ∈ c.scheduler.tracker.live, isOf number t.request.callback = false) ∧
      ∀ n ∈ c.notices, isOf number n.callback = false
  | _ => True

variable {c : Crowd δ κ} {number : Nat}

theorem countP_struck_eq_zero_iff :
    c.withdrawals.countP (·.2 == some number) = 0 ↔ number ∉ c.struck := by
  rw [List.countP_eq_zero, struck, List.mem_filterMap]
  constructor
  · rintro none ⟨w, member, own⟩
    exact none w member (beq_iff_eq.2 own)
  · intro none w member own
    exact none ⟨w, member, beq_iff_eq.1 own⟩

theorem countP_withdrew_eq_zero_iff :
    c.withdrawals.countP (·.1 == number) = 0 ↔ number ∉ c.withdrew := by
  rw [List.countP_eq_zero, withdrew, List.mem_map]
  constructor
  · rintro none ⟨w, member, own⟩
    exact none w member (beq_iff_eq.2 own)
  · intro none w member own
    exact none ⟨w, member, beq_iff_eq.1 own⟩

section

variable {listed withdrew : Nat} (b : c.ledger.Books number listed withdrew c.withdrawals)
  (perm : c.created.Perm c.notices)
include b perm

/-- A request that was taken in is where it should be, unless somebody has taken it back. -/
theorem keepsWord_done_iff (in_ : listed = 1) : c.KeepsWord number .done ↔ number ∉ c.struck := by
  obtain ⟨count, accounts, sum⟩ := b.accounts
  have total := accounts.total
  rw [Ledger.countP_isEnd_kinds] at total
  have ended := perm.countP_eq fun n => isOf number n.callback && n.kind.isEnd
  have same : c.KeepsWord number .done ↔ count = 1 := by
    rw [← total, KeepsWord, ← ended]
    rfl
  rw [same, ← countP_struck_eq_zero_iff]
  omega

/-- Nothing comes of a request that does not count. -/
theorem keepsWord_refused_of_zero (e : SchedulerError)
    (none : listed = c.withdrawals.countP (·.2 == some number)) :
    c.KeepsWord number (.refused e) := by
  obtain ⟨count, accounts, sum⟩ := b.accounts
  obtain rfl : count = 0 := by omega
  obtain ⟨live, created⟩ := accounts.eq_nil_of_zero
  exact ⟨live, fun n member => created n (perm.mem_iff.2 member)⟩

/-- Whoever takes back a request when its own is gone is refused a request that has come to
something, unless somebody else has taken it back. -/
theorem keepsWord_refused_iff (e : SchedulerError) (in_ : listed = 1) (done : 0 < withdrew) :
    c.KeepsWord number (.refused e) ↔ number ∈ c.struck := by
  obtain ⟨count, accounts, sum⟩ := b.accounts
  constructor
  · rintro ⟨live, silent⟩
    by_contra kept
    rw [← countP_struck_eq_zero_iff] at kept
    have total := accounts.total
    rw [Ledger.countP_isEnd_kinds] at total
    have awaiting : c.ledger.awaiting (isOf number) = 0 := by
      rw [Ledger.awaiting, List.countP_eq_zero]
      intro r waits
      simpa [isOf] using b.gone done r waits
    have active : c.ledger.active (isOf number) = 0 := by
      rw [Ledger.active, List.countP_eq_zero]
      intro t member
      rw [live t member]
      exact Bool.false_ne_true
    have ended : c.ledger.created.countP (fun n => isOf number n.callback && n.kind.isEnd) = 0 := by
      rw [List.countP_eq_zero]
      intro n member
      rw [silent n (perm.mem_iff.1 member)]
      exact Bool.false_ne_true
    omega
  · intro struck
    have positive : c.withdrawals.countP (·.2 == some number) ≠ 0 := by
      rw [ne_eq, countP_struck_eq_zero_iff]
      exact not_not_intro struck
    exact keepsWord_refused_of_zero b perm e (by omega)

end

variable [ClusterDriver δ]

/-- However the actions of callers are mixed: whoever has asked for a worker and has returned was
told that the request was taken in or that it was refused. The promise that goes with the former is
kept exactly if nobody has taken back the request, and the promise that goes with the latter exactly
if the caller has taken back no request, or its own request was taken back, by whomever. -/
theorem keepsWord_iff_own_withdrawn (settings : SchedulerSettings) (session : Session δ)
    (turns : List (Turn κ)) (number : Nat) {caller : Caller (Nat × κ)} {reply : Reply}
    (found : (after (.new settings session) turns).callers[number]? = some caller)
    (asked : caller.operation.isRequest = true) (replied : caller.reply = some reply) :
    let c := after (.new settings session) turns
    (reply = .done ∧ (c.KeepsWord number reply ↔ number ∉ c.struck)) ∨
    ∃ e, reply = .refused e ∧
      (c.KeepsWord number reply ↔ (number ∈ c.withdrew → number ∈ c.struck)) := by
  intro c
  have sound : c.Sound := sound_after settings session turns
  have perm : c.created.Perm c.notices := created_perm _ rfl turns
  obtain ⟨listed, withdrew, stands, books⟩ := sound.books number
  have stands : caller.Stands number listed withdrew := by
    obtain ⟨other, same, stands⟩ | ⟨later, -, -⟩ := stands
    · exact Option.some.inj (found.symm.trans same) ▸ stands
    · rw [List.getElem?_eq_none later] at found
      cases found
  have returned := books.withdrew_eq
  cases stands with
  | apart other => exact absurd (other.symm.trans asked) nofun
  | wasTurnedAway spec callback e =>
      obtain rfl := Option.some.inj replied
      refine .inr ⟨e, rfl, iff_of_true ?_ ?_⟩
      · obtain ⟨count, -, sum⟩ := books.accounts
        exact keepsWord_refused_of_zero books perm e (by omega)
      · intro member
        exact absurd member (countP_withdrew_eq_zero_iff.1 returned)
  | wasServed =>
      obtain rfl := Option.some.inj replied
      exact .inl ⟨rfl, keepsWord_done_iff books perm rfl⟩
  | wasRefused spec callback e =>
      obtain rfl := Option.some.inj replied
      refine .inr ⟨e, rfl, ?_⟩
      have member : number ∈ c.withdrew := by
        by_contra none
        rw [countP_withdrew_eq_zero_iff.2 none] at returned
        cases returned
      rw [keepsWord_refused_iff books perm e rfl Nat.one_pos]
      exact ⟨fun struck _ => struck, fun h => h member⟩
  | comes | isTurnedAway | connects | isServed | fails | isRefused => cases replied

end Crowd

namespace Plain

def slowSession : Session Recorder := .new { failingRegistrations := 1 } ⟨"", "", "", "", none⟩ 1

/-- The session cannot be started for a first request; before that is taken back, the session is
started for a second one, and an offer goes to the first. -/
def launchedInBetween : List (Crowd.Turn Unit) :=
  [.enter (.request (worker "w") ()), .proceed moment 0, .proceed moment 0,
    .enter (.request (worker "v") ()), .proceed moment 1, .proceed moment 1,
    .enter (.process [offer "o"]), .proceed moment 2, .proceed moment 0, .proceed moment 0]

/-- The session cannot be started for a first request; before that is taken back, it is cancelled,
and a request of the same name is taken in and promised. -/
def struckInBetween : List (Crowd.Turn Unit) :=
  [.enter (.request (worker "w") ()), .proceed moment 0, .proceed moment 0,
    .enter (.cancel ⟨"w"⟩), .proceed moment 1, .enter (.request (worker "w") ()),
    .proceed moment 2, .proceed moment 2, .proceed moment 2, .proceed moment 0]

/-- In the one course of events, a request is refused and its task is live; in the other, a request
is taken in and nothing is left of it. -/
theorem words_broken_in_between :
    (∃ e, ¬ (Crowd.after (.new {} slowSession) launchedInBetween).KeepsWord 0 (.refused e)) ∧
      ¬ (Crowd.after (.new {} slowSession) struckInBetween).KeepsWord 2 .done := by
  constructor
  · obtain ⟨done, -⟩ | ⟨e, -, kept⟩ := Crowd.keepsWord_iff_own_withdrawn {} slowSession
      launchedInBetween 0 (by rfl) (by rfl) (by rfl)
    · cases done
    · exact ⟨_, mt kept.1 (by decide +kernel)⟩
  · obtain ⟨-, kept⟩ | ⟨e, refused, -⟩ := Crowd.keepsWord_iff_own_withdrawn {} slowSession
      struckInBetween 2 (by rfl) (by rfl) (by rfl)
    · exact mt kept.1 (by decide +kernel)
    · cases refused

end Plain

end OfferDispatch
