import OfferDispatch.Launch.Url

/-!
# Which agents share an address

The address of an agent has the name of its worker in the middle, and is joined from segments. A
join repeats no slash that a segment brings along where it is joined. This is meant for slashes that
stand between segments, but a name may begin or end with a slash of its own, or be one. What is left
of a name in its address is the name without one slash at either end.

So an address shows a name as it is exactly if the name has no slash at its ends, and two workers
share an address exactly if their names differ in nothing but these slashes. A name that is a lone
slash is apart from all others: nothing is left of it, and of the two slashes around it one goes
too.
-/

namespace OfferDispatch.Url

variable {cs : List Char}

/-! ## Slashes at the ends -/

theorem dropFirstSlash_eq_self_iff : dropFirstSlash cs = cs ↔ cs.head? ≠ some '/' := by
  unfold dropFirstSlash
  split
  · simp
  · next plain =>
      refine iff_of_true rfl fun first => ?_
      obtain ⟨rest, rfl⟩ := List.head?_eq_some_iff.1 first
      exact plain rest rfl

theorem dropFirstSlash_suffix (cs : List Char) : dropFirstSlash cs <:+ cs := by
  unfold dropFirstSlash
  split
  · exact List.suffix_cons _ _
  · exact List.suffix_rfl

/-- Nothing is left of a text without its first slash only if it was nothing else. -/
theorem dropFirstSlash_eq_nil_iff (some_ : cs ≠ []) : dropFirstSlash cs = [] ↔ cs = ['/'] := by
  unfold dropFirstSlash
  split
  · simp
  · next plain =>
      refine iff_of_false some_ ?_
      rintro rfl
      exact plain [] rfl

theorem dropLastSlash_eq_self_iff : dropLastSlash cs = cs ↔ cs.getLast? ≠ some '/' := by
  unfold dropLastSlash
  split
  · next last =>
      obtain ⟨front, rfl⟩ := List.getLast?_eq_some_iff.1 last
      simp
  · next plain => exact iff_of_true rfl plain

theorem length_dropLastSlash_le (cs : List Char) : (dropLastSlash cs).length ≤ cs.length := by
  unfold dropLastSlash
  split
  · exact (List.dropLast_sublist cs).length_le
  · exact Nat.le_refl _

/-- Of two texts, only the one at the end loses its last slash. -/
theorem dropLastSlash_append (front : List Char) {back : List Char} (some_ : back ≠ []) :
    dropLastSlash (front ++ back) = front ++ dropLastSlash back := by
  have last : (front ++ back).getLast? = back.getLast? := by
    rw [List.getLast?_append, List.getLast?_eq_some_getLast some_, Option.some_or]
  unfold dropLastSlash
  rw [last, List.dropLast_append_of_ne_nil some_]
  split <;> rfl

/-! ## Segments -/

/-- A text without one slash at its start and one at its end. -/
def bare (cs : List Char) : List Char := dropLastSlash (dropFirstSlash cs)

theorem bare_eq_self_iff : bare cs = cs ↔ cs.head? ≠ some '/' ∧ cs.getLast? ≠ some '/' := by
  rw [← dropFirstSlash_eq_self_iff, ← dropLastSlash_eq_self_iff]
  constructor
  · intro kept
    have shorter := length_dropLastSlash_le (dropFirstSlash cs)
    rw [← bare, kept] at shorter
    have first : dropFirstSlash cs = cs := (dropFirstSlash_suffix cs).eq_of_length_le shorter
    rw [bare, first] at kept
    exact ⟨first, kept⟩
  · rintro ⟨first, last⟩
    rw [bare, first, last]

/-- What a text becomes as a segment between two others, with the slash before it. -/
def segment (cs : List Char) : List Char := dropLastSlash ('/' :: dropFirstSlash cs)

/-- A segment is a slash and the bare text, but a lone slash vanishes together with the one before
it. -/
theorem segment_eq (some_ : cs ≠ []) :
    segment cs = if cs = ['/'] then [] else '/' :: bare cs := by
  by_cases lone : cs = ['/']
  · rw [if_pos lone, lone]
    rfl
  · have left : dropFirstSlash cs ≠ [] := mt (dropFirstSlash_eq_nil_iff some_).1 lone
    rw [if_neg lone, segment]
    exact dropLastSlash_append ['/'] left

/-- A text stands in its segment as it is exactly if it has no slash at its ends. -/
theorem segment_eq_cons_iff (some_ : cs ≠ []) :
    segment cs = '/' :: cs ↔ cs.head? ≠ some '/' ∧ cs.getLast? ≠ some '/' := by
  rw [segment_eq some_]
  split
  · next lone => simp [lone]
  · rw [List.cons.injEq, and_iff_right rfl, bare_eq_self_iff]

/-- Two texts become the same segment if they are bare the same, unless just one of them is a lone
slash. -/
theorem segment_eq_segment_iff {ds : List Char} (some_ : cs ≠ []) (other : ds ≠ []) :
    segment cs = segment ds ↔ (cs = ['/'] ↔ ds = ['/']) ∧ bare cs = bare ds := by
  rw [segment_eq some_, segment_eq other]
  by_cases lone : cs = ['/']
  · by_cases alike : ds = ['/'] <;> simp [lone, alike]
  · by_cases alike : ds = ['/'] <;> simp [lone, alike]

/-! ## Addresses -/

theorem ne_nil_of_isValid {worker : TaskId} (valid : worker.IsValid) :
    worker.text.toList ≠ [] := by
  intro none
  have empty : worker.text = "" := String.toList_eq_nil_iff.1 none
  simp [Name.IsValid, Name.isValidText, empty] at valid

/-- The address with a text in the place of the segment of the worker. -/
def around (controller : String) (middle : List Char) : String :=
  String.ofList (dropLastSlash controller.toList ++ "/computer".toList ++ middle ++
    "/slave-agent.jnlp".toList)

theorem around_eq (controller : String) (middle : List Char) :
    around controller middle = String.ofList (dropLastSlash controller.toList) ++ "/computer" ++
      String.ofList middle ++ "/slave-agent.jnlp" := by
  simp only [around, String.ofList_append, String.ofList_toList]

theorem around_inj {controller : String} {middle other : List Char} :
    around controller middle = around controller other ↔ middle = other := by
  rw [around, around, String.ofList_inj, List.append_left_inj, List.append_right_inj]

theorem agent_eq (controller : String) (worker : TaskId) :
    agent controller worker = around controller (segment worker.text.toList) := by
  have page : joinChars controller.toList "computer".toList =
      dropLastSlash controller.toList ++ "/computer".toList := rfl
  have plain : dropLastSlash (joinChars controller.toList "computer".toList) =
      dropLastSlash controller.toList ++ "/computer".toList := by
    rw [page, dropLastSlash_append _ (by decide)]
    rfl
  have named : dropLastSlash (joinChars (joinChars controller.toList "computer".toList)
      worker.text.toList) =
      dropLastSlash controller.toList ++ "/computer".toList ++ segment worker.text.toList := by
    rw [joinChars, plain, dropLastSlash_append _ (List.cons_ne_nil _ _), segment]
  rw [agent, join, join, join, String.toList_ofList, String.toList_ofList, around, joinChars, named]
  rfl

/-- The address of an agent is the one of its page among those of all workers, with the bare name in
it, or without any if the name is a lone slash. It shows the name as it is exactly if the name has
no slash at its ends. It is also that of another worker exactly if both names are bare the same, and
neither or both are a lone slash. -/
theorem agents_share_address_iff (controller : String) {v w : TaskId} (valid : v.IsValid)
    (other : w.IsValid) :
    let base := String.ofList (dropLastSlash controller.toList)
    agent controller w = base ++ "/computer" ++
        (if w.text = "/" then "" else "/" ++ String.ofList (bare w.text.toList)) ++
        "/slave-agent.jnlp" ∧
    (agent controller w = base ++ "/computer/" ++ w.text ++ "/slave-agent.jnlp" ↔
      w.text.toList.head? ≠ some '/' ∧ w.text.toList.getLast? ≠ some '/') ∧
    (agent controller v = agent controller w ↔
      (v.text = "/" ↔ w.text = "/") ∧ bare v.text.toList = bare w.text.toList) := by
  intro base
  have lone (n : TaskId) : n.text.toList = ['/'] ↔ n.text = "/" := by
    rw [← String.toList_inj]
    rfl
  have first := ne_nil_of_isValid valid
  have second := ne_nil_of_isValid other
  refine ⟨?_, ?_, ?_⟩
  · rw [agent_eq, segment_eq second, around_eq]
    by_cases slash : w.text = "/"
    · rw [if_pos slash, if_pos ((lone w).2 slash)]
    · rw [if_neg slash, if_neg (mt (lone w).1 slash), String.ofList_cons]
      rfl
  · have literal : base ++ "/computer/" ++ w.text ++ "/slave-agent.jnlp" =
        around controller ('/' :: w.text.toList) := by
      have page : "/computer/" = "/computer" ++ String.singleton '/' := rfl
      rw [around_eq, String.ofList_cons, String.ofList_toList, page]
      simp only [String.append_assoc, base]
    rw [literal, agent_eq, around_inj, segment_eq_cons_iff second]
  · rw [agent_eq, agent_eq, around_inj, segment_eq_segment_iff first second, lone, lone]

end OfferDispatch.Url

namespace OfferDispatch.Plain

def slashed : TaskId := ⟨"/agent1"⟩

/-- It has the address of the one whose name is the rest. -/
theorem agents_share_address_iff_slashed :
    slashed ≠ ⟨"agent1"⟩ ∧ Name.IsValid slashed ∧ (⟨"agent1"⟩ : TaskId).IsValid ∧
      Url.agent "http://controller:8080/" slashed =
        Url.agent "http://controller:8080/" ⟨"agent1"⟩ := by
  have valid : Name.IsValid slashed := by decide
  have other : (⟨"agent1"⟩ : TaskId).IsValid := by decide
  obtain ⟨-, -, shared⟩ := Url.agents_share_address_iff "http://controller:8080/" valid other
  exact ⟨by decide, valid, other, shared.2 (by decide)⟩

end OfferDispatch.Plain
