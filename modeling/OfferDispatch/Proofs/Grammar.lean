import OfferDispatch.Json.Reader

/-!
# The grammar of documents

How a document can be written: with blanks between its parts or without, its characters as they are
or escaped in any of the ways there are, and the fields of its objects in any order. The grammar says
what a text begins with and what follows. Numerals are taken as they are read.

The pieces of a document are read as the grammar has them: blanks are skipped, a text is read exactly
as it is spelled, and a numeral begins with a sign or a digit.
-/

namespace OfferDispatch.Json

open Reader

/-! ## Blanks and texts -/

/-- The first text is the second with blanks in front. -/
def Blanks (cs rest : List Char) : Prop :=
  ∃ blanks : List Char, (∀ c ∈ blanks, isSpace c = true) ∧ cs = blanks ++ rest

/-- The ways to write a character inside a text. -/
inductive Spells : Char → List Char → Prop
  | plain {c : Char} (printable : 0x20 ≤ c.toNat) (noMark : c ≠ '"') (noEscape : c ≠ '\\') :
      Spells c [c]
  | escape {c letter : Char} (h : escaped? letter = some c) : Spells c ['\\', letter]
  | unit {a b c d : Char} {n : Nat} (number : hex? a b c d = some n) (noLead : isLead n = false)
      (noTrail : isTrail n = false) : Spells (Char.ofNat n) ['\\', 'u', a, b, c, d]
  | pair {a b c d e f g h : Char} {n m : Nat} (first : hex? a b c d = some n)
      (lead : isLead n = true) (second : hex? e f g h = some m) (trail : isTrail m = true) :
      Spells (Char.ofNat (0x10000 + (n - 0xd800) * 0x400 + (m - 0xdc00)))
        ['\\', 'u', a, b, c, d, '\\', 'u', e, f, g, h]

/-- The text begins with characters and a closing mark. -/
inductive Spelled : List Char → List Char → List Char → Prop
  | stop {rest : List Char} : Spelled ('"' :: rest) [] rest
  | next {c : Char} {sign cs s rest : List Char} (first : Spells c sign)
      (others : Spelled cs s rest) : Spelled (sign ++ cs) (c :: s) rest

/-! ## Documents -/

/-- What can be found in a text: a document; an object, with its fields in the order in which they
are written; the members of an array or the fields of an object, up to its end. -/
inductive Part
  | value (v : Json)
  | object (fields : List (String × Json))
  | items (items : List Json)
  | fields (fields : List (String × Json))

/-- The text begins with a part whose arrays and objects nest at most so deep; the last argument is
what follows. Of two fields of an object with one key the later counts. -/
inductive Written : Nat → Part → List Char → List Char → Prop
  | null {depth : Nat} {rest : List Char} :
      Written depth (.value .null) ('n' :: 'u' :: 'l' :: 'l' :: rest) rest
  | yes {depth : Nat} {rest : List Char} :
      Written depth (.value (.bool true)) ('t' :: 'r' :: 'u' :: 'e' :: rest) rest
  | no {depth : Nat} {rest : List Char} :
      Written depth (.value (.bool false)) ('f' :: 'a' :: 'l' :: 's' :: 'e' :: rest) rest
  | num {depth : Nat} {n : Number} {cs rest : List Char} (h : Numeral.read? cs = some (n, rest)) :
      Written depth (.value (.num n)) cs rest
  | str {depth : Nat} {cs s rest : List Char} (h : Spelled cs s rest) :
      Written depth (.value (.str (String.ofList s))) ('"' :: cs) rest
  | emptyArr {depth : Nat} {cs rest : List Char} (h : Blanks cs (']' :: rest)) :
      Written (depth + 1) (.value (.arr [])) ('[' :: cs) rest
  | arr {depth : Nat} {items : List Json} {cs rest : List Char}
      (h : Written depth (.items items) cs rest) :
      Written (depth + 1) (.value (.arr items)) ('[' :: cs) rest
  | obj {depth : Nat} {fields : List (String × Json)} {cs rest : List Char}
      (h : Written depth (.object fields) cs rest) :
      Written depth (.value (.obj (Table.ofList fields).entries)) cs rest
  | lastItem {depth : Nat} {v : Json} {cs cs₁ cs₂ rest : List Char} (before : Blanks cs cs₁)
      (first : Written depth (.value v) cs₁ cs₂) (after : Blanks cs₂ (']' :: rest)) :
      Written depth (.items [v]) cs rest
  | item {depth : Nat} {v : Json} {items : List Json} {cs cs₁ cs₂ cs₃ rest : List Char}
      (before : Blanks cs cs₁) (first : Written depth (.value v) cs₁ cs₂)
      (after : Blanks cs₂ (',' :: cs₃)) (others : Written depth (.items items) cs₃ rest) :
      Written depth (.items (v :: items)) cs rest
  | emptyObject {depth : Nat} {cs rest : List Char} (h : Blanks cs ('\x7d' :: rest)) :
      Written (depth + 1) (.object []) ('\x7b' :: cs) rest
  | object {depth : Nat} {fields : List (String × Json)} {cs rest : List Char}
      (h : Written depth (.fields fields) cs rest) :
      Written (depth + 1) (.object fields) ('\x7b' :: cs) rest
  | lastField {depth : Nat} {key : List Char} {v : Json} {cs cs₁ cs₂ cs₃ cs₄ cs₅ rest : List Char}
      (before : Blanks cs ('"' :: cs₁)) (name : Spelled cs₁ key cs₂)
      (colon : Blanks cs₂ (':' :: cs₃)) (between : Blanks cs₃ cs₄)
      (first : Written depth (.value v) cs₄ cs₅) (after : Blanks cs₅ ('\x7d' :: rest)) :
      Written depth (.fields [(String.ofList key, v)]) cs rest
  | field {depth : Nat} {key : List Char} {v : Json} {fields : List (String × Json)}
      {cs cs₁ cs₂ cs₃ cs₄ cs₅ cs₆ rest : List Char}
      (before : Blanks cs ('"' :: cs₁)) (name : Spelled cs₁ key cs₂)
      (colon : Blanks cs₂ (':' :: cs₃)) (between : Blanks cs₃ cs₄)
      (first : Written depth (.value v) cs₄ cs₅) (after : Blanks cs₅ (',' :: cs₆))
      (others : Written depth (.fields fields) cs₆ rest) :
      Written depth (.fields ((String.ofList key, v) :: fields)) cs rest

/-! ## Blanks -/

theorem blanks_skip (cs : List Char) : Blanks cs (skip cs) :=
  ⟨cs.takeWhile isSpace, List.all_eq_true.1 List.all_takeWhile,
    List.takeWhile_append_dropWhile.symm⟩

theorem Blanks.refl (cs : List Char) : Blanks cs cs := ⟨[], List.forall_mem_nil _, rfl⟩

theorem Blanks.suffix {cs rest : List Char} (h : Blanks cs rest) : rest <:+ cs := by
  obtain ⟨blanks, -, rfl⟩ := h
  exact List.suffix_append _ _

/-- Blanks are skipped up to the first character that is none. -/
theorem Blanks.skip_eq {cs rest : List Char} {c : Char} (h : Blanks cs (c :: rest))
    (visible : isSpace c = false) : skip cs = c :: rest := by
  obtain ⟨blanks, blank, rfl⟩ := h
  rw [skip, List.dropWhile_append_of_pos blank, List.dropWhile_cons_of_neg (by simp [visible])]

/-! ## Texts -/

theorem not_isTrail_of_isLead {n : Nat} (h : isLead n = true) : ¬ isTrail n = true := by
  simp only [isLead, isTrail, Bool.and_eq_true, decide_eq_true_eq] at h ⊢
  omega

/-- A character is read from each way to write it. -/
theorem Spells.string_append {c : Char} {sign : List Char} (h : Spells c sign) (cs : List Char) :
    string (sign ++ cs) = (string cs).map fun r => (c :: r.1, r.2) := by
  cases h with
  | plain printable noMark noEscape =>
      have plain : ¬ (c.toNat < 0x20 ∨ c = '\\') := not_or.2 ⟨Nat.not_lt.2 printable, noEscape⟩
      rw [List.singleton_append, string.eq_5 c cs noMark (fun _ _ _ _ _ same => absurd same noEscape)
        fun _ _ same => absurd same noEscape, if_neg plain]
  | @escape _ letter h =>
      have letterNot : letter ≠ 'u' := by
        rintro rfl
        cases h
      rw [List.cons_append, List.singleton_append,
        string.eq_4 letter cs fun _ _ _ _ _ same => absurd same letterNot, h]
  | unit number noLead noTrail =>
      simp only [List.cons_append, List.nil_append]
      rw [string.eq_3, number]
      simp only [noTrail, noLead, if_neg Bool.false_ne_true]
  | pair first lead second trail =>
      have noTrail : ¬ isTrail _ = true := not_isTrail_of_isLead lead
      simp only [List.cons_append, List.nil_append]
      rw [string.eq_3, first]
      simp only [if_neg noTrail, if_pos lead, second, if_pos trail]

/-- What is read after a character follows it. -/
theorem Spells.spelled {c : Char} {sign cs s rest : List Char} (first : Spells c sign)
    (read : ((string cs).map fun r => (c :: r.1, r.2)) = some (s, rest))
    (others : ∀ {s}, string cs = some (s, rest) → Spelled cs s rest) :
    Spelled (sign ++ cs) s rest := by
  obtain ⟨⟨s', rest'⟩, more, same⟩ := Option.map_eq_some_iff.1 read
  cases same
  exact .next first (others more)

/-- Texts are read as they are spelled. -/
theorem string_eq_some_iff {cs s rest : List Char} :
    string cs = some (s, rest) ↔ Spelled cs s rest := by
  constructor
  · intro h
    fun_induction string cs generalizing s with
    | case2 =>
        cases h
        exact .stop
    | case6 _ _ _ _ _ first _ lead _ _ _ _ _ _ second trail ih =>
        exact (Spells.pair first lead second trail).spelled h ih
    | case9 _ _ _ _ _ _ number noTrail noLead ih =>
        exact (Spells.unit number (Bool.eq_false_iff.2 noLead)
          (Bool.eq_false_iff.2 noTrail)).spelled h ih
    | case11 _ _ _ _ letter ih => exact (Spells.escape letter).spelled h ih
    | case13 _ _ noMark _ _ plain ih =>
        obtain ⟨printable, noEscape⟩ := not_or.1 plain
        exact (Spells.plain (Nat.not_lt.1 printable) noMark noEscape).spelled h ih
    | case1 | case3 | case4 | case5 | case7 | case8 | case10 | case12 => cases h
  · intro h
    induction h with
    | stop => rfl
    | next first _ ih => rw [first.string_append, ih, Option.map_some]

/-! ## Numerals -/

namespace Numeral

/-- The characters that a numeral can begin with. -/
def begins (c : Char) : Bool := c == '-' || Text.isDigit c

theorem digits_suffix (cs : List Char) : (digits cs).2 <:+ cs := by
  induction cs with
  | nil => exact List.suffix_rfl
  | cons c cs ih =>
      rw [digits]
      split
      · exact ih.trans (List.suffix_cons _ _)
      · exact List.suffix_rfl

/-- What follows the digits that a text starts with. -/
theorem suffix_of_digits {cs rest : List Char} {ds : List Nat} (h : digits cs = (ds, rest)) :
    rest <:+ cs := by
  have suffix := digits_suffix cs
  rwa [h] at suffix

theorem exponent?_suffix {cs rest : List Char} {e : Option Int}
    (h : exponent? cs = some (e, rest)) : rest <:+ cs := by
  rw [exponent?.eq_def] at h
  split at h
  · cases h
    exact List.suffix_rfl
  · next c cs =>
      split at h
      · simp only at h
        split at h
        · cases h
        · next read =>
            cases h
            refine (suffix_of_digits read).trans (List.IsSuffix.trans ?_ (List.suffix_cons _ _))
            split
            · exact List.suffix_cons _ _
            · exact List.suffix_cons _ _
            · exact List.suffix_rfl
      · cases h
        exact List.suffix_rfl

theorem unsigned?_suffix {negative : Bool} {cs rest : List Char} {n : Number}
    (h : unsigned? negative cs = some (n, rest)) : rest <:+ cs := by
  rw [unsigned?.eq_def] at h
  split at h
  · cases h
  · next ds front _ read =>
      have whole := suffix_of_digits read
      split at h
      · cases h
      · simp only at h
        split at h
        · next after =>
            split at h
            · cases h
            · next read =>
                obtain ⟨⟨e, rest'⟩, power, h⟩ := Option.bind_eq_some_iff.1 h
                obtain ⟨_, -, same⟩ := Option.map_eq_some_iff.1 h
                cases same
                exact (exponent?_suffix power).trans <| (suffix_of_digits read).trans <|
                  (List.suffix_cons _ _).trans whole
        · obtain ⟨⟨e, rest'⟩, power, h⟩ := Option.bind_eq_some_iff.1 h
          have part : rest' <:+ cs := (exponent?_suffix power).trans whole
          cases e with
          | none =>
              obtain ⟨_, -, same⟩ := Option.map_eq_some_iff.1 h
              cases same
              exact part
          | some e =>
              obtain ⟨_, -, same⟩ := Option.map_eq_some_iff.1 h
              cases same
              exact part

theorem begins_of_unsigned? {negative : Bool} {cs rest : List Char} {n : Number}
    (h : unsigned? negative cs = some (n, rest)) : ∃ c cs', cs = c :: cs' ∧ begins c = true := by
  cases cs with
  | nil => cases h
  | cons c cs =>
      refine ⟨c, cs, rfl, ?_⟩
      rw [begins, Bool.or_eq_true, Text.isDigit]
      refine .inr (Option.isSome_iff_ne_none.2 fun none => ?_)
      rw [unsigned?, digits, none] at h
      cases h

theorem isSpace_of_begins {c : Char} (h : begins c = true) : Reader.isSpace c = false := by
  rw [Bool.eq_false_iff]
  intro blank
  simp only [Reader.isSpace, Bool.or_eq_true, beq_iff_eq] at blank
  rcases blank with ((rfl | rfl) | rfl) | rfl <;> cases h

theorem read?_suffix {cs rest : List Char} {n : Number} (h : read? cs = some (n, rest)) :
    rest <:+ cs := by
  rw [read?.eq_def] at h
  split at h
  · exact (unsigned?_suffix h).trans (List.suffix_cons _ _)
  · exact unsigned?_suffix h

theorem begins_of_read? {cs rest : List Char} {n : Number} (h : read? cs = some (n, rest)) :
    ∃ c cs', cs = c :: cs' ∧ begins c = true := by
  rw [read?.eq_def] at h
  split at h
  · exact ⟨_, _, rfl, rfl⟩
  · exact begins_of_unsigned? h

end Numeral

end OfferDispatch.Json
