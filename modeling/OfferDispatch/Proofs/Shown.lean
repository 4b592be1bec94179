import Mathlib.Data.List.DropRight
import OfferDispatch.Constraint.Selector
import OfferDispatch.Proofs.Readings

/-!
# Documents as operators type them

What an operator types is read after the blanks around it are cut off, of whatever kind they are.
What is left is an object exactly if the text shows one, which begins and ends with its braces.
-/

namespace OfferDispatch

open Text

namespace Text

theorem isBlank_of_isSpace {c : Char} (h : Json.Reader.isSpace c = true) : isBlank c = true := by
  simp only [Json.Reader.isSpace, Bool.or_eq_true, beq_iff_eq] at h
  rcases h with ((rfl | rfl) | rfl) | rfl <;> rfl

/-- Only blanks are cut off. -/
theorem exists_trimChars (cs : List Char) : ∃ before after, cs = before ++ trimChars cs ++ after ∧
    (∀ c ∈ before, isBlank c = true) ∧ ∀ c ∈ after, isBlank c = true := by
  refine ⟨cs.takeWhile isBlank, (trimStart cs).rtakeWhile isBlank, ?_,
    List.all_eq_true.1 List.all_takeWhile, fun c => List.mem_rtakeWhile_imp⟩
  have back : trimChars cs ++ (trimStart cs).rtakeWhile isBlank = trimStart cs :=
    List.rdropWhile_append_rtakeWhile ..
  rw [List.append_assoc, back, trimStart, List.takeWhile_append_dropWhile]

/-- What is left does not end with a blank. -/
theorem eq_nil_of_suffix_trimChars {cs rest : List Char} (blank : ∀ c ∈ rest, isBlank c = true)
    (h : rest <:+ trimChars cs) : rest = [] := by
  by_contra something
  have left : trimChars cs ≠ [] := fun none => something (List.suffix_nil.1 (none ▸ h))
  have last : (trimChars cs).getLast left = rest.getLast something := (h.getLast something).symm
  exact List.rdropWhile_last_not isBlank (trimStart cs) left
    (last ▸ blank _ (List.getLast_mem something))

/-- Exactly the blanks around a text are cut off if it has none at its ends. -/
theorem trimChars_eq {before cs after : List Char}
    (blankBefore : ∀ c ∈ before, isBlank c = true) (blankAfter : ∀ c ∈ after, isBlank c = true)
    (first : ∀ c ∈ cs.head?, isBlank c = false) (last : ∀ c ∈ cs.getLast?, isBlank c = false) :
    trimChars (before ++ cs ++ after) = cs := by
  have stops (ds : List Char) (visible : ∀ c ∈ ds.head?, isBlank c = false) :
      trimStart ds = ds := by
    cases ds with
    | nil => rfl
    | cons c ds => rw [trimStart_cons, visible c rfl, if_neg Bool.false_ne_true]
  have reversed : ∀ c ∈ after.reverse, isBlank c = true := by
    simpa using blankAfter
  have front : trimStart (before ++ (cs ++ after)) = trimStart (cs ++ after) :=
    List.dropWhile_append_of_pos blankBefore
  have back : trimStart (cs ++ after).reverse = cs.reverse := by
    rw [List.reverse_append, trimStart, List.dropWhile_append_of_pos reversed]
    exact stops _ (by simpa using last)
  rw [trimChars, List.append_assoc, front]
  cases cs with
  | nil =>
      have none : trimStart after = [] := List.dropWhile_eq_nil_iff.2 blankAfter
      rw [List.nil_append, none]
      rfl
  | cons c cs => rw [stops (c :: cs ++ after) first, back, List.reverse_reverse]

end Text

namespace Json

/-- The text is a part, with blanks of any kind around it. -/
def Shows (depth : Nat) (raw : String) (part : Part) : Prop :=
  ∃ before text after : List Char, raw.toList = before ++ text ++ after ∧
    (∀ c ∈ before, isBlank c = true) ∧ (∀ c ∈ after, isBlank c = true) ∧
    Written depth part text []

variable {depth : Nat} {raw : String}

/-- An object is written between braces. -/
theorem Written.exists_braces {es : List (String × Json)} {text : List Char}
    (h : Written depth (.object es) text []) :
    ∃ middle, text = '\x7b' :: middle ++ ['\x7d'] := by
  have close : ['\x7d'] <:+ text := h.suffix
  cases h with
  | @emptyObject _ cs | @object _ _ cs =>
      rcases List.suffix_cons_iff.1 close with same | ⟨middle, rfl⟩
      · cases same
      · exact ⟨middle, rfl⟩

theorem Shows.mono {depth' : Nat} {part : Part} (h : Shows depth raw part) (more : depth ≤ depth') :
    Shows depth' raw part := by
  obtain ⟨before, text, after, around, blankBefore, blankAfter, written⟩ := h
  exact ⟨before, text, after, around, blankBefore, blankAfter, written.mono more⟩

/-- An object is shown by what shows its fields in any order. -/
theorem shows_value_iff {fields : List (String × Json)} :
    Shows depth raw (.value (.obj fields)) ↔
      ∃ es, (Table.ofList es).entries = fields ∧ Shows depth raw (.object es) := by
  constructor
  · rintro ⟨before, text, after, around, blankBefore, blankAfter, written⟩
    cases written with
    | @obj _ es _ _ written =>
        exact ⟨es, rfl, before, text, after, around, blankBefore, blankAfter, written⟩
  · rintro ⟨es, rfl, before, text, after, around, blankBefore, blankAfter, written⟩
    exact ⟨before, text, after, around, blankBefore, blankAfter, .obj written⟩

/-- What is left of a text that shows an object, without the blanks around it. -/
theorem Shows.written {es : List (String × Json)} (h : Shows depth raw (.object es)) :
    Written depth (.object es) (trimChars raw.toList) [] := by
  obtain ⟨before, text, after, around, blankBefore, blankAfter, written⟩ := h
  obtain ⟨middle, rfl⟩ := written.exists_braces
  have first : ∀ c ∈ ('\x7b' :: middle ++ ['\x7d']).head?, isBlank c = false := by
    rintro _ ⟨⟩
    rfl
  have last : ∀ c ∈ ('\x7b' :: middle ++ ['\x7d']).getLast?, isBlank c = false := by
    rw [List.getLast?_concat]
    rintro _ ⟨⟩
    rfl
  rwa [around, trimChars_eq blankBefore blankAfter first last]

/-- An object is read from a text exactly if the text shows it and it nests at most so deep. -/
theorem document?_eq_some_iff {fields : List (String × Json)} :
    Selector.document? raw = some (.obj fields) ↔ Shows maxDepth raw (.value (.obj fields)) := by
  rw [Selector.document?, read?, trim, String.toList_ofList, readChars?_eq_some_iff]
  constructor
  · rintro ⟨text, rest, ⟨blanks, spaces, trimmed⟩, written, ⟨spacesAfter, spaceAfter, same⟩⟩
    rw [List.append_nil] at same
    subst same
    obtain ⟨before, after, around, blankBefore, blankAfter⟩ := exists_trimChars raw.toList
    have suffix : rest <:+ trimChars raw.toList :=
      trimmed ▸ written.suffix.trans (List.suffix_append ..)
    have ended : rest = [] :=
      eq_nil_of_suffix_trimChars (fun c there => isBlank_of_isSpace (spaceAfter c there)) suffix
    subst ended
    refine ⟨before ++ blanks, text, after, ?_, ?_, blankAfter, written⟩
    · rw [around, trimmed, ← List.append_assoc before]
    · exact List.forall_mem_append.2
        ⟨blankBefore, fun c there => isBlank_of_isSpace (spaces c there)⟩
  · intro h
    obtain ⟨es, rfl, shown⟩ := shows_value_iff.1 h
    exact ⟨_, [], .refl _, .obj shown.written, .refl _⟩

theorem document?_text (v : Json) :
    Selector.document? (text v) = readChars? (trimChars (Printer.value v)) := by
  rw [Selector.document?, read?, trim, text, String.toList_ofList, String.toList_ofList]

/-- A printed document is shown, whatever blanks are put around it. -/
theorem IsPrinted.shows {v : Json} (h : IsPrinted depth v) {before after : String}
    (blankBefore : isBlankText before = true) (blankAfter : isBlankText after = true) :
    Shows depth (before ++ text v ++ after) (.value v) := by
  have written := h []
  rw [List.append_nil] at written
  exact ⟨before.toList, _, after.toList, by simp [text], List.all_eq_true.1 blankBefore,
    List.all_eq_true.1 blankAfter, written⟩

/-- A printed object is shown with its fields in the order in which they were printed. -/
theorem shows_text_obj {fields : List (String × Json)}
    (h : ∀ field ∈ fields, IsPrinted depth field.2) :
    Shows (depth + 1) (text (.obj fields)) (.object fields) := by
  have written := written_object h []
  rw [List.append_nil] at written
  exact ⟨[], _, [], by simp [text], List.forall_mem_nil _, List.forall_mem_nil _, written⟩

end Json

end OfferDispatch
