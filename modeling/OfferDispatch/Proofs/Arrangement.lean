import OfferDispatch.Proofs.Turns

/-!
# Offers of remembered agents first

Before a batch is placed, it is arranged so that agents that took a task lately are preferred. For
each of them, beginning with the one that is longest ago, one offer is moved to the front. So one
offer of each of these agents leads the batch, in the order in which the agents are remembered, and
all other offers stay behind in the order in which they came.

Only the first offer of an agent is moved. If an agent has made several, the others stay among those
of agents that nobody remembers, and it is shown when it makes a difference.
-/

namespace OfferDispatch

def Offer.isFrom (agent : AgentId) (o : Offer Float) : Bool := o.agent == agent

@[simp] theorem Offer.isFrom_iff {agent : AgentId} {o : Offer Float} :
    o.isFrom agent = true ↔ o.agent = agent := beq_iff_eq

/-! ## Moving one offer -/

/-- The first offer of an agent goes to the front, if there is one, and the others close up. -/
theorem bringForward_eq (agent : AgentId) (offers : List (Offer Float)) :
    bringForward agent offers =
      (offers.find? (·.isFrom agent)).toList ++ offers.eraseP (·.isFrom agent) := by
  cases found : offers.find? (·.isFrom agent) with
  | some o =>
      simp only [Offer.isFrom] at found
      simp only [bringForward, found]
      rfl
  | none =>
      have absent := List.find?_eq_none.1 found
      simp only [Offer.isFrom] at found
      simp only [bringForward, found]
      exact (List.eraseP_of_forall_not absent).symm

/-- Either the agent has made no offer and nothing is moved, or its first one is moved and those
before and after it close up. -/
theorem bringForward_cases (agent : AgentId) (offers : List (Offer Float)) :
    bringForward agent offers = offers ∨
      ∃ before o after, offers = before ++ o :: after ∧ o.isFrom agent = true ∧
        (∀ p ∈ before, ¬ p.isFrom agent = true) ∧
        bringForward agent offers = o :: (before ++ after) := by
  rw [bringForward_eq]
  cases found : offers.find? (·.isFrom agent) with
  | none =>
      left
      exact List.eraseP_of_forall_not (List.find?_eq_none.1 found)
  | some o =>
      right
      obtain ⟨same, before, after, rfl, absent⟩ := List.find?_eq_some_iff_append.1 found
      have none : ∀ p ∈ before, ¬ p.isFrom agent = true := by
        simpa only [Bool.not_eq_true, Bool.not_eq_eq_eq_not, Bool.not_true] using absent
      refine ⟨before, o, after, rfl, same, none, ?_⟩
      rw [List.eraseP_append_right _ none, List.eraseP_cons_of_pos same]
      rfl

/-- Offers that are all from other agents keep their order. -/
theorem filter_bringForward_of_ne {agent : AgentId} {test : Offer Float → Bool}
    (others : ∀ o, test o = true → o.agent ≠ agent) (offers : List (Offer Float)) :
    (bringForward agent offers).filter test = offers.filter test := by
  obtain kept | ⟨before, o, after, split, same, -, moved⟩ := bringForward_cases agent offers
  · rw [kept]
  · have passed : test o = false :=
      Bool.eq_false_iff.2 fun ok => others o ok (Offer.isFrom_iff.1 same)
    rw [moved, split]
    simp [passed]

/-- The offers of the agent itself keep their order too: it is the first of them that is moved. -/
theorem filter_bringForward_self (agent : AgentId) (offers : List (Offer Float)) :
    (bringForward agent offers).filter (·.isFrom agent) = offers.filter (·.isFrom agent) := by
  obtain kept | ⟨before, o, after, split, same, none, moved⟩ := bringForward_cases agent offers
  · rw [kept]
  · have gone : before.filter (·.isFrom agent) = [] := List.filter_eq_nil_iff.2 none
    rw [moved, split]
    simp [same, gone]

/-! ## What is kept of the order -/

/-- The offers of one agent keep their order. -/
theorem filter_isFrom_arrangeByAffinity (agent : AgentId) (affinity : List AgentId)
    (batch : List (Offer Float)) :
    (arrangeByAffinity affinity batch).filter (·.isFrom agent) =
      batch.filter (·.isFrom agent) := by
  induction affinity with
  | nil => rfl
  | cons latest rest ih =>
      refine Eq.trans ?_ ih
      by_cases same : agent = latest
      · subst same
        exact filter_bringForward_self agent _
      · apply filter_bringForward_of_ne
        intro o from_
        rw [Offer.isFrom_iff.1 from_]
        exact same

/-- The offers of agents that nobody remembers keep their order. -/
theorem filter_forgotten_arrangeByAffinity {affinity : List AgentId} {test : Offer Float → Bool}
    (forgotten : ∀ o, test o = true → o.agent ∉ affinity) (batch : List (Offer Float)) :
    (arrangeByAffinity affinity batch).filter test = batch.filter test := by
  induction affinity with
  | nil => rfl
  | cons latest rest ih =>
      refine Eq.trans ?_ (ih fun o ok member => forgotten o ok (List.mem_cons_of_mem _ member))
      apply filter_bringForward_of_ne
      rintro o ok rfl
      exact forgotten o ok List.mem_cons_self

/-! ## Which offers are moved -/

/-- The offers that are moved to the front: the first one of each remembered agent. -/
def leading : List AgentId → List (Offer Float) → List (Offer Float)
  | [], _ => []
  | latest :: rest, batch =>
    (batch.find? (·.isFrom latest)).toList ++ (leading rest batch).filter (!·.isFrom latest)

/-- The offers that are not moved, where offers of some agents have been seen before: those of
agents that nobody remembers, and any but the first one of an agent. -/
def staying (affinity : List AgentId) : (seen : List AgentId) → List (Offer Float) →
    List (Offer Float)
  | _, [] => []
  | seen, o :: rest =>
    if o.agent ∈ affinity ∧ o.agent ∉ seen then staying affinity (o.agent :: seen) rest
    else o :: staying affinity (o.agent :: seen) rest

variable {affinity seen : List AgentId} {batch : List (Offer Float)} {o : Offer Float}

theorem mem_leading_iff :
    o ∈ leading affinity batch ↔
      o.agent ∈ affinity ∧ batch.find? (·.isFrom o.agent) = some o := by
  induction affinity with
  | nil => simp [leading]
  | cons latest rest ih =>
      simp only [leading, List.mem_append, Option.mem_toList, List.mem_filter, ih, List.mem_cons]
      by_cases same : o.agent = latest
      · simp [Offer.isFrom, same]
      · have other : batch.find? (·.isFrom latest) ≠ some o := fun found =>
          same (Offer.isFrom_iff.1 (List.find?_some found))
        have behind : (!o.isFrom latest) = true := by simp [Offer.isFrom, same]
        simp only [other, same, behind, false_or, and_true]

/-- Each remembered agent that has made an offer leads with one. -/
theorem exists_mem_leading {p : Offer Float} (member : p ∈ batch) (known : p.agent ∈ affinity) :
    ∃ l ∈ leading affinity batch, l.agent = p.agent := by
  have some_ : (batch.find? (·.isFrom p.agent)).isSome = true :=
    List.find?_isSome.2 ⟨p, member, Offer.isFrom_iff.2 rfl⟩
  obtain ⟨l, found⟩ := Option.isSome_iff_exists.1 some_
  have same : l.agent = p.agent := Offer.isFrom_iff.1 (List.find?_some found)
  exact ⟨l, mem_leading_iff.2 ⟨same ▸ known, same ▸ found⟩, same⟩

/-- The offers that are moved stand in the order in which their agents are remembered. -/
theorem pairwise_leading (affinity : List AgentId) (batch : List (Offer Float)) :
    (leading affinity batch).Pairwise fun x y =>
      affinity.idxOf x.agent < affinity.idxOf y.agent := by
  induction affinity with
  | nil => exact .nil
  | cons latest rest ih =>
      have others : ∀ y ∈ (leading rest batch).filter (!·.isFrom latest), latest ≠ y.agent := by
        intro y member
        have other := (List.mem_filter.1 member).2
        rintro rfl
        simp [Offer.isFrom] at other
      refine List.pairwise_append.2 ⟨?_, ?_, ?_⟩
      · cases batch.find? (·.isFrom latest) <;> simp
      · refine (ih.filter _).imp_of_mem ?_
        intro x y left right lt
        rw [List.idxOf_cons_ne _ (others x left), List.idxOf_cons_ne _ (others y right)]
        exact Nat.succ_lt_succ lt
      · intro x first y later
        have same : x.agent = latest :=
          Offer.isFrom_iff.1 (List.find?_some (Option.mem_toList.1 first))
        rw [same, List.idxOf_cons_self, List.idxOf_cons_ne _ (others y later)]
        exact Nat.succ_pos _

theorem staying_sublist (affinity seen : List AgentId) (batch : List (Offer Float)) :
    (staying affinity seen batch).Sublist batch := by
  induction batch generalizing seen with
  | nil => exact .slnil
  | cons o rest ih =>
      rw [staying]
      split
      · exact (ih _).cons o
      · exact (ih _).cons_cons o

/-- What stays depends on which agents are remembered of whom no offer has been seen. -/
theorem staying_congr {more : List AgentId}
    (same : ∀ agent ∉ seen, agent ∈ affinity ↔ agent ∈ more) (batch : List (Offer Float)) :
    staying affinity seen batch = staying more seen batch := by
  induction batch generalizing seen with
  | nil => rfl
  | cons o rest ih =>
      have later : staying affinity (o.agent :: seen) rest = staying more (o.agent :: seen) rest :=
        ih fun agent new => same agent fun old => new (List.mem_cons_of_mem _ old)
      have here : o.agent ∈ affinity ∧ o.agent ∉ seen ↔ o.agent ∈ more ∧ o.agent ∉ seen :=
        and_congr_left fun new => same o.agent new
      simp only [staying, later, here]

/-- If one more agent is remembered, its first offer stays no longer. -/
theorem eraseP_staying {agent : AgentId} (new : agent ∉ affinity) (unseen : agent ∉ seen)
    (batch : List (Offer Float)) :
    (staying affinity seen batch).eraseP (·.isFrom agent) =
      staying (agent :: affinity) seen batch := by
  induction batch generalizing seen with
  | nil => rfl
  | cons o rest ih =>
      by_cases same : o.agent = agent
      · subst same
        have later : ∀ a ∉ o.agent :: seen, a ∈ affinity ↔ a ∈ o.agent :: affinity := by
          intro a other
          simp [List.ne_of_not_mem_cons other]
        simp only [staying, new, false_and, if_false, List.mem_cons_self, unseen, not_false_eq_true,
          and_self, if_true]
        rw [List.eraseP_cons_of_pos (Offer.isFrom_iff.2 rfl)]
        exact staying_congr later rest
      · have later : (staying affinity (o.agent :: seen) rest).eraseP (·.isFrom agent) =
            staying (agent :: affinity) (o.agent :: seen) rest :=
          ih (by simp [Ne.symm same, unseen])
        have here : o.agent ∈ agent :: affinity ↔ o.agent ∈ affinity := by simp [same]
        simp only [staying, here]
        split
        · exact later
        · rw [List.eraseP_cons_of_neg (by simp [same]), later]

/-- To erase the first element of a kind is to erase all of the kind, if there are no two. -/
theorem eraseP_eq_filter {α : Type} {test : α → Bool} {l : List α}
    (distinct : l.Pairwise fun x y => ¬ (test x = true ∧ test y = true)) :
    l.eraseP test = l.filter (!test ·) := by
  induction l with
  | nil => rfl
  | cons x rest ih =>
      obtain ⟨apart, others⟩ := List.pairwise_cons.1 distinct
      by_cases found : test x = true
      · have kept : rest.filter (!test ·) = rest := by
          refine List.filter_eq_self.2 fun y member => ?_
          simpa [found] using apart y member
        rw [List.eraseP_cons_of_pos found, List.filter_cons_of_neg (by simp [found]), kept]
      · rw [List.eraseP_cons_of_neg found, List.filter_cons_of_pos (by simp [found]), ih others]

theorem staying_nil (seen : List AgentId) (batch : List (Offer Float)) :
    staying [] seen batch = batch := by
  induction batch generalizing seen with
  | nil => rfl
  | cons o rest ih => simp [staying, ih]

/-- An agent leads with one offer only. -/
theorem eraseP_leading (agent : AgentId) (affinity : List AgentId) (batch : List (Offer Float)) :
    (leading affinity batch).eraseP (·.isFrom agent) =
      (leading affinity batch).filter (!·.isFrom agent) := by
  refine eraseP_eq_filter ((pairwise_leading affinity batch).imp ?_)
  rintro x y lt ⟨left, right⟩
  rw [Offer.isFrom_iff.1 left, Offer.isFrom_iff.1 right] at lt
  exact Nat.lt_irrefl _ lt

/-- If one more agent is remembered, the offer that leads for it is taken from the others. -/
theorem eraseP_leading_append_staying (latest : AgentId) (rest : List AgentId)
    (batch : List (Offer Float)) :
    (leading rest batch ++ staying rest [] batch).eraseP (·.isFrom latest) =
      (leading rest batch).filter (!·.isFrom latest) ++ staying (latest :: rest) [] batch := by
  have again (old : latest ∈ rest) : staying rest [] batch = staying (latest :: rest) [] batch :=
    staying_congr (fun agent _ => ⟨List.mem_cons_of_mem _, fun member =>
      (List.mem_cons.1 member).elim (· ▸ old) id⟩) batch
  by_cases leads : ∃ l ∈ leading rest batch, l.isFrom latest = true
  · obtain ⟨l, member, same⟩ := leads
    have old : latest ∈ rest := Offer.isFrom_iff.1 same ▸ (mem_leading_iff.1 member).1
    rw [List.eraseP_append_left same _ member, eraseP_leading, again old]
  · push Not at leads
    have kept : (leading rest batch).filter (!·.isFrom latest) = leading rest batch := by
      refine List.filter_eq_self.2 fun l member => ?_
      rw [Bool.eq_false_iff.2 (leads l member), Bool.not_false]
    rw [List.eraseP_append_right _ leads, kept]
    by_cases old : latest ∈ rest
    · -- The agent is remembered and does not lead, so it has made no offer.
      have absent : ∀ o ∈ staying rest [] batch, ¬ o.isFrom latest = true := by
        intro o member same
        have known : o.agent ∈ rest := (Offer.isFrom_iff.1 same).symm ▸ old
        obtain ⟨l, leader, equal⟩ := exists_mem_leading ((staying_sublist ..).mem member) known
        exact leads l leader (Offer.isFrom_iff.2 (equal.trans (Offer.isFrom_iff.1 same)))
      rw [List.eraseP_of_forall_not absent, again old]
    · rw [eraseP_staying old List.not_mem_nil]

/-- The first offer of each remembered agent leads, and the others stay behind. -/
theorem arrangeByAffinity_eq (affinity : List AgentId) (batch : List (Offer Float)) :
    arrangeByAffinity affinity batch = leading affinity batch ++ staying affinity [] batch := by
  induction affinity with
  | nil => exact (staying_nil [] batch).symm
  | cons latest rest ih =>
      have found : (arrangeByAffinity rest batch).find? (·.isFrom latest) =
          batch.find? (·.isFrom latest) := by
        rw [← List.head?_filter, ← List.head?_filter, filter_isFrom_arrangeByAffinity]
      have step : arrangeByAffinity (latest :: rest) batch =
          bringForward latest (arrangeByAffinity rest batch) := rfl
      rw [step, bringForward_eq, found, ih, eraseP_leading_append_staying, leading,
        List.append_assoc]

/-! ## The order by recency -/

/-- Are the offers of remembered agents first, those of the agent remembered latest ahead? -/
structure ByRecency (affinity : List AgentId) (offers : List (Offer Float)) : Prop where
  remembered_first : offers.Pairwise fun x y => y.agent ∈ affinity → x.agent ∈ affinity
  latest_first : offers.Pairwise fun x y =>
    x.agent ∈ affinity → y.agent ∈ affinity → affinity.idxOf x.agent ≤ affinity.idxOf y.agent

theorem idxOf_le_of_not_mem {agent other : AgentId} (forgotten : other ∉ affinity) :
    affinity.idxOf agent ≤ affinity.idxOf other := by
  rw [List.idxOf_eq_length forgotten]
  exact List.idxOf_le_length

/-- Agents that nobody remembers rank behind all others, so that there is one order to keep. -/
theorem byRecency_iff {offers : List (Offer Float)} :
    ByRecency affinity offers ↔
      offers.Pairwise fun x y => affinity.idxOf x.agent ≤ affinity.idxOf y.agent := by
  constructor
  · intro ordered
    refine (ordered.remembered_first.and ordered.latest_first).imp ?_
    rintro x y ⟨first, latest⟩
    by_cases known : y.agent ∈ affinity
    · exact latest (first known) known
    · exact idxOf_le_of_not_mem known
  · intro ordered
    refine ⟨ordered.imp ?_, ordered.imp fun le _ _ => le⟩
    intro x y le known
    exact List.idxOf_lt_length_iff.1 (Nat.lt_of_le_of_lt le (List.idxOf_lt_length_iff.2 known))

/-- What stays of a batch in two parts: the second part is seen after the first. -/
theorem staying_append (affinity seen : List AgentId) (before after : List (Offer Float)) :
    staying affinity seen (before ++ after) =
      staying affinity seen before ++
        staying affinity ((before.map (·.agent)).reverse ++ seen) after := by
  induction before generalizing seen with
  | nil => rfl
  | cons o rest ih =>
      simp only [List.cons_append, staying, ih, List.map_cons, List.reverse_cons,
        List.append_assoc, List.nil_append]
      split <;> rfl

/-- An offer stays if its agent is not remembered, or has made one before. -/
theorem staying_cons_of_stays {rest : List (Offer Float)}
    (stays : o.agent ∈ affinity → o.agent ∈ seen) :
    staying affinity seen (o :: rest) = o :: staying affinity (o.agent :: seen) rest :=
  if_neg fun first => first.2 (stays first.1)

/-- And only then. -/
theorem exists_of_mem_staying (member : o ∈ staying affinity seen batch) :
    ∃ before after, batch = before ++ o :: after ∧
      (o.agent ∈ affinity → o.agent ∈ seen ∨ o.agent ∈ before.map (·.agent)) := by
  induction batch generalizing seen with
  | nil => cases member
  | cons p rest ih =>
      by_cases here : o = p ∧ (p.agent ∈ affinity → p.agent ∈ seen)
      · obtain ⟨rfl, stays⟩ := here
        exact ⟨[], rest, rfl, fun known => .inl (stays known)⟩
      · have later : o ∈ staying affinity (p.agent :: seen) rest := by
          rw [staying] at member
          split at member
          · exact member
          · next stays =>
              refine (List.mem_cons.1 member).resolve_left fun same => here ⟨same, ?_⟩
              simpa using stays
        obtain ⟨before, after, rfl, stays⟩ := ih later
        refine ⟨p :: before, after, rfl, fun known => ?_⟩
        simpa [or_assoc, or_left_comm] using stays known

theorem mem_staying_of_forgotten (member : o ∈ batch) (forgotten : o.agent ∉ affinity) :
    o ∈ staying affinity seen batch := by
  induction batch generalizing seen with
  | nil => cases member
  | cons p rest ih =>
      rw [staying]
      split
      · next first =>
          refine ih ((List.mem_cons.1 member).resolve_left ?_)
          rintro rfl
          exact forgotten first.1
      · exact List.mem_cons.2 ((List.mem_cons.1 member).imp_right ih)

/-- What stays is ordered if each later offer of a remembered agent comes behind no offer that ranks
after it. -/
theorem pairwise_staying
    (behind : ∀ before o after, batch = before ++ o :: after → o.agent ∈ affinity →
      o.agent ∈ seen ∨ o.agent ∈ before.map (·.agent) →
      ∀ p ∈ before, affinity.idxOf p.agent ≤ affinity.idxOf o.agent) :
    (staying affinity seen batch).Pairwise fun x y =>
      affinity.idxOf x.agent ≤ affinity.idxOf y.agent := by
  induction batch generalizing seen with
  | nil => exact .nil
  | cons p rest ih =>
      -- Seen from the whole batch, what is before an offer of `rest` begins with `p`.
      have widen {q : Offer Float} {before : List (Offer Float)}
          (stays : q.agent ∈ p.agent :: seen ∨ q.agent ∈ before.map (·.agent)) :
          q.agent ∈ seen ∨ q.agent ∈ (p :: before).map (·.agent) := by
        simpa [or_assoc, or_left_comm] using stays
      have later : (staying affinity (p.agent :: seen) rest).Pairwise _ :=
        ih fun before o after split known stays q member =>
          behind (p :: before) o after (congrArg (p :: ·) split) known (widen stays) q
            (List.mem_cons_of_mem _ member)
      rw [staying]
      split
      · exact later
      · refine List.pairwise_cons.2 ⟨fun y member => ?_, later⟩
        obtain ⟨before, after, split, stays⟩ := exists_of_mem_staying member
        by_cases known : y.agent ∈ affinity
        · exact behind (p :: before) y after (congrArg (p :: ·) split) known
            (widen (stays known)) p List.mem_cons_self
        · exact idxOf_le_of_not_mem known

/-- Arranging permutes a batch, and keeps the order of the offers of one agent and the order of the
offers of agents that nobody remembers. Only the first offer of an agent is moved, so the offers end
up by recency iff each later offer of a remembered agent is from the one that took a task longest
ago, of the remembered agents in the batch, and comes in after offers of remembered agents only. -/
theorem arranged_by_recency_iff (affinity : List AgentId) (batch : List (Offer Float)) :
    (arrangeByAffinity affinity batch).Perm batch ∧
      (∀ agent, (arrangeByAffinity affinity batch).filter (·.isFrom agent) =
        batch.filter (·.isFrom agent)) ∧
      (arrangeByAffinity affinity batch).filter (·.agent ∉ affinity) =
        batch.filter (·.agent ∉ affinity) ∧
      (ByRecency affinity (arrangeByAffinity affinity batch) ↔
        ∀ before o after, batch = before ++ o :: after →
          o.agent ∈ affinity → o.agent ∈ before.map (·.agent) →
            (∀ p ∈ before, p.agent ∈ affinity) ∧
              ∀ p ∈ batch, p.agent ∈ affinity →
                affinity.idxOf p.agent ≤ affinity.idxOf o.agent) := by
  refine ⟨perm_arrangeByAffinity affinity batch,
    fun agent => filter_isFrom_arrangeByAffinity agent affinity batch,
    filter_forgotten_arrangeByAffinity (by simp) batch, ?_⟩
  rw [byRecency_iff, arrangeByAffinity_eq, List.pairwise_append]
  constructor
  · rintro ⟨-, stay, across⟩ before o after rfl known repeated
    rw [staying_append, staying_cons_of_stays fun _ => by simpa using repeated] at stay across
    constructor
    · intro p member
      by_contra forgotten
      have le := (List.pairwise_append.1 stay).2.2 p (mem_staying_of_forgotten member forgotten) o
        List.mem_cons_self
      exact forgotten (List.idxOf_lt_length_iff.1
        (Nat.lt_of_le_of_lt le (List.idxOf_lt_length_iff.2 known)))
    · intro p member recalled
      obtain ⟨l, leads, same⟩ := exists_mem_leading member recalled
      have le := across l leads o (List.mem_append_right _ List.mem_cons_self)
      rwa [same] at le
  · intro ordered
    refine ⟨(pairwise_leading affinity batch).imp Nat.le_of_lt, pairwise_staying ?_, ?_⟩
    · intro before o after split known repeated p member
      obtain ⟨remembered, last⟩ := ordered before o after split known (by simpa using repeated)
      exact last p (split ▸ List.mem_append_left _ member) (remembered p member)
    · intro x leads y stays
      obtain ⟨known, found⟩ := mem_leading_iff.1 leads
      by_cases recalled : y.agent ∈ affinity
      · obtain ⟨before, after, split, repeated⟩ := exists_of_mem_staying stays
        have repeated : y.agent ∈ before.map (·.agent) := by simpa using repeated recalled
        exact (ordered before y after split recalled repeated).2 x (List.mem_of_find?_eq_some found)
          known
      · exact idxOf_le_of_not_mem recalled

/-- The second offer of the agent stays behind one of an agent that nobody remembers. -/
example :
    (arrangeByAffinity [⟨"agent"⟩]
        [{ Plain.offer "o1" with agent := ⟨"other"⟩ }, Plain.offer "o2", Plain.offer "o3"]).map
      (·.id) = [⟨"o2"⟩, ⟨"o1"⟩, ⟨"o3"⟩] := by
  decide +kernel

end OfferDispatch
