import OfferDispatch.Json.Printer
import OfferDispatch.Proofs.Grammar

/-!
# Reading follows the grammar

Whatever is read is written by the grammar, and whatever is written with few enough levels is read as
what it is, whatever follows. So a text can be a document in one way only, and a document that the
library prints, if it holds no numbers, is read back as it was.
-/

namespace OfferDispatch.Json

open Reader

/-! ## Whatever is read is written -/

/-- The pairs of a list, written one after the other into another list. -/
def insertAll (found fields : List (String × Json)) : List (String × Json) :=
  fields.foldl (fun l field => insertPair field.1 field.2 l) found

theorem entries_foldl_insert (t : Table Json) (fields : List (String × Json)) :
    (fields.foldl (fun t p => t.insert p.1 p.2) t).entries = insertAll t.entries fields := by
  induction fields generalizing t with
  | nil => rfl
  | cons field fields ih => exact ih (t.insert field.1 field.2)

/-- The fields of an object are those of a table that is built up from them. -/
theorem entries_ofList (fields : List (String × Json)) :
    (Table.ofList fields).entries = insertAll [] fields :=
  entries_foldl_insert .empty fields

/-- With so much fuel the readers read only what is written. -/
structure Follows (fuel : Nat) : Prop where
  value : ∀ {depth : Nat} {cs rest : List Char} {v : Json}, value fuel depth cs = some (v, rest) →
    ∃ cs', Blanks cs cs' ∧ Written depth (.value v) cs' rest
  items : ∀ {depth : Nat} {cs rest : List Char} {l : List Json},
    items fuel depth cs = some (l, rest) → Written depth (.items l) cs rest
  fields : ∀ {depth : Nat} {cs rest : List Char} {found all : List (String × Json)},
    fields fuel depth found cs = some (all, rest) →
      ∃ l, Written depth (.fields l) cs rest ∧ all = insertAll found l

theorem Follows.value_succ {fuel depth : Nat} {cs rest : List Char} {v : Json} (ih : Follows fuel)
    (h : Reader.value (fuel + 1) depth cs = some (v, rest)) :
    ∃ cs', Blanks cs cs' ∧ Written depth (.value v) cs' rest := by
  have blanks := blanks_skip cs
  rw [Reader.value] at h
  generalize skip cs = text at h blanks
  refine ⟨text, blanks, ?_⟩
  split at h
  · cases h
    exact .null
  · cases h
    exact .yes
  · cases h
    exact .no
  · next text =>
      obtain ⟨⟨s, rest'⟩, read, same⟩ := Option.map_eq_some_iff.1 h
      cases same
      exact .str (string_eq_some_iff.1 read)
  · next text =>
      cases depth with
      | zero => cases h
      | succ depth =>
          have inner := blanks_skip text
          simp only at h
          split at h
          · next after mark =>
              cases h
              exact .emptyArr (mark ▸ inner)
          · obtain ⟨⟨items, rest'⟩, read, same⟩ := Option.map_eq_some_iff.1 h
            cases same
            exact .arr (ih.items read)
  · next text =>
      cases depth with
      | zero => cases h
      | succ depth =>
          have inner := blanks_skip text
          simp only at h
          split at h
          · next after mark =>
              cases h
              exact .obj (.emptyObject (mark ▸ inner))
          · obtain ⟨⟨all, rest'⟩, read, same⟩ := Option.map_eq_some_iff.1 h
            cases same
            obtain ⟨l, written, rfl⟩ := ih.fields read
            rw [← entries_ofList]
            exact .obj (.object written)
  · next text _ _ _ _ _ _ =>
      obtain ⟨⟨n, rest'⟩, read, same⟩ := Option.map_eq_some_iff.1 h
      cases same
      exact .num read

theorem Follows.items_succ {fuel depth : Nat} {cs rest : List Char} {l : List Json}
    (ih : Follows fuel) (h : Reader.items (fuel + 1) depth cs = some (l, rest)) :
    Written depth (.items l) cs rest := by
  rw [Reader.items] at h
  split at h
  · cases h
  · next v cs₂ read =>
      obtain ⟨cs₁, before, first⟩ := ih.value read
      have after := blanks_skip cs₂
      split at h
      · next cs₃ mark =>
          rw [mark] at after
          obtain ⟨⟨others, rest'⟩, more, same⟩ := Option.map_eq_some_iff.1 h
          cases same
          exact .item before first after (ih.items more)
      · next mark =>
          cases h
          rw [mark] at after
          exact .lastItem before first after
      · cases h

theorem Follows.fields_succ {fuel depth : Nat} {cs rest : List Char}
    {found all : List (String × Json)} (ih : Follows fuel)
    (h : Reader.fields (fuel + 1) depth found cs = some (all, rest)) :
    ∃ l, Written depth (.fields l) cs rest ∧ all = insertAll found l := by
  have before := blanks_skip cs
  rw [Reader.fields] at h
  split at h
  · next mark =>
      rw [mark] at before
      split at h
      · cases h
      · next key cs₂ name =>
          have spelled := string_eq_some_iff.1 name
          have colon := blanks_skip cs₂
          split at h
          · next cs₃ mark =>
              rw [mark] at colon
              split at h
              · cases h
              · next v cs₅ read =>
                  obtain ⟨cs₄, between, first⟩ := ih.value read
                  have after := blanks_skip cs₅
                  simp only at h
                  split at h
                  · next cs₆ mark =>
                      rw [mark] at after
                      obtain ⟨l, others, rfl⟩ := ih.fields h
                      exact ⟨(String.ofList key, v) :: l,
                        .field before spelled colon between first after others, rfl⟩
                  · next mark =>
                      cases h
                      rw [mark] at after
                      exact ⟨_, .lastField before spelled colon between first after, rfl⟩
                  · cases h
          · cases h
  · cases h

theorem follows (fuel : Nat) : Follows fuel := by
  induction fuel with
  | zero => exact ⟨nofun, nofun, nofun⟩
  | succ fuel ih => exact ⟨ih.value_succ, ih.items_succ, ih.fields_succ⟩

/-! ## Whatever is written is read -/

/-- What a part in front of a text ends with. -/
def Part.closing : Part → List Char
  | value _ => []
  | items _ => [']']
  | object _ | fields _ => ['\x7d']

theorem Spelled.suffix {cs s rest : List Char} (h : Spelled cs s rest) : rest <:+ cs := by
  induction h with
  | stop => exact List.suffix_cons _ _
  | next _ _ ih => exact ih.trans (List.suffix_append _ _)

/-- The value of a field comes behind its key. -/
theorem suffix_of_key {cs cs₁ cs₂ cs₃ cs₄ key : List Char} (before : Blanks cs ('"' :: cs₁))
    (name : Spelled cs₁ key cs₂) (colon : Blanks cs₂ (':' :: cs₃)) (between : Blanks cs₃ cs₄) :
    cs₄ <:+ cs :=
  between.suffix.trans <| (List.suffix_cons _ _).trans <| colon.suffix.trans <|
    name.suffix.trans <| (List.suffix_cons _ _).trans before.suffix

/-- What follows a part is the end of the text, behind what the part ends with. -/
theorem Written.suffix {depth : Nat} {part : Part} {cs rest : List Char}
    (h : Written depth part cs rest) : part.closing ++ rest <:+ cs := by
  induction h with
  | null => exact List.suffix_append ['n', 'u', 'l', 'l'] _
  | yes => exact List.suffix_append ['t', 'r', 'u', 'e'] _
  | no => exact List.suffix_append ['f', 'a', 'l', 's', 'e'] _
  | num h => exact Numeral.read?_suffix h
  | str h => exact h.suffix.trans (List.suffix_cons _ _)
  | emptyArr h =>
      exact (List.suffix_cons _ _).trans <| h.suffix.trans (List.suffix_cons _ _)
  | arr _ ih => exact (List.suffix_cons _ _).trans <| ih.trans (List.suffix_cons _ _)
  | obj _ ih => exact (List.suffix_cons _ _).trans ih
  | lastItem before _ after ih => exact after.suffix.trans (ih.trans before.suffix)
  | item before _ after _ ih ihOthers =>
      exact ihOthers.trans <| (List.suffix_cons _ _).trans <| after.suffix.trans <|
        ih.trans before.suffix
  | emptyObject h => exact h.suffix.trans (List.suffix_cons _ _)
  | object _ ih => exact ih.trans (List.suffix_cons _ _)
  | lastField before name colon between _ after ih =>
      exact after.suffix.trans (ih.trans (suffix_of_key before name colon between))
  | field before name colon between _ after _ ih ihOthers =>
      exact ihOthers.trans <| (List.suffix_cons _ _).trans <| after.suffix.trans <|
        ih.trans (suffix_of_key before name colon between)

/-- A document in front of a text begins neither with a blank nor with a closing mark. -/
theorem Written.exists_first {depth : Nat} {v : Json} {cs rest : List Char}
    (h : Written depth (.value v) cs rest) :
    ∃ c cs', cs = c :: cs' ∧ isSpace c = false ∧ c ≠ ']' := by
  cases h with
  | null | yes | no | str | emptyArr | arr => exact ⟨_, _, rfl, rfl, by decide⟩
  | num h =>
      obtain ⟨c, cs', rfl, begins⟩ := Numeral.begins_of_read? h
      refine ⟨c, cs', rfl, Numeral.isSpace_of_begins begins, ?_⟩
      rintro rfl
      cases begins
  | obj h =>
      cases h with
      | emptyObject | object => exact ⟨_, _, rfl, rfl, by decide⟩

/-- The blanks before a document are skipped. -/
theorem Written.skip_eq {depth : Nat} {v : Json} {cs cs' rest : List Char}
    (h : Written depth (.value v) cs rest) (before : Blanks cs' cs) : skip cs' = cs := by
  obtain ⟨c, cs, rfl, visible, -⟩ := h.exists_first
  exact before.skip_eq visible

/-- Where the members of an array begin, it does not end. -/
theorem Written.skip_ne {depth : Nat} {l : List Json} {cs rest : List Char}
    (h : Written depth (.items l) cs rest) (after : List Char) : skip cs ≠ ']' :: after := by
  cases h with
  | lastItem before first _ | item before first _ _ =>
      rw [first.skip_eq before]
      obtain ⟨c, cs, rfl, -, other⟩ := first.exists_first
      exact fun same => other (List.cons.inj same).1

/-- Where the fields of an object begin, it does not end. -/
theorem Written.skip_ne_of_fields {depth : Nat} {l : List (String × Json)} {cs rest : List Char}
    (h : Written depth (.fields l) cs rest) (after : List Char) : skip cs ≠ '\x7d' :: after := by
  cases h with
  | lastField before | field before =>
      rw [before.skip_eq rfl]
      exact fun same => absurd (List.cons.inj same).1 (by decide)

/-- A part is read as what it is, given enough fuel. -/
def Part.IsRead (depth : Nat) (cs rest : List Char) : Part → Prop
  | .value v => ∀ fuel cs', 2 * cs.length ≤ fuel → Blanks cs' cs →
      Reader.value (fuel + 1) depth cs' = some (v, rest)
  | .object l => ∀ fuel cs', 2 * cs.length ≤ fuel → Blanks cs' cs →
      Reader.value (fuel + 1) depth cs' = some (.obj (Table.ofList l).entries, rest)
  | .items l => ∀ fuel, 2 * cs.length + 1 ≤ fuel →
      Reader.items (fuel + 1) depth cs = some (l, rest)
  | .fields l => ∀ fuel found, 2 * cs.length + 1 ≤ fuel →
      Reader.fields (fuel + 1) depth found cs = some (insertAll found l, rest)

theorem Written.isRead {depth : Nat} {part : Part} {cs rest : List Char}
    (h : Written depth part cs rest) : part.IsRead depth cs rest := by
  induction h with
  | null | yes | no =>
      intro fuel cs' _ before
      rw [Reader.value, before.skip_eq rfl]
      rfl
  | num h =>
      intro fuel cs' _ before
      rw [Reader.value, (show Written 0 _ _ _ from .num h).skip_eq before]
      obtain ⟨c, cs, rfl, begins⟩ := Numeral.begins_of_read? h
      -- A numeral begins like no other document.
      split
      case h_7 => rw [h, Option.map_some]
      all_goals next same =>
        cases same
        cases begins
  | str h =>
      intro fuel cs' _ before
      rw [Reader.value, before.skip_eq rfl]
      simp only [string_eq_some_iff.2 h, Option.map_some]
  | emptyArr h =>
      intro fuel cs' _ before
      rw [Reader.value, before.skip_eq rfl]
      simp only [h.skip_eq rfl]
  | arr h ih =>
      intro fuel cs' enough before
      rw [List.length_cons] at enough
      obtain ⟨fuel, rfl⟩ : ∃ more, fuel = more + 1 := Nat.exists_eq_succ_of_ne_zero (by omega)
      rw [Reader.value, before.skip_eq rfl]
      simp only
      split
      · next after mark => exact absurd mark (h.skip_ne after)
      · rw [ih fuel (by omega), Option.map_some]
  | obj _ ih => exact ih
  | lastItem before _ after ih =>
      intro fuel enough
      have length := before.suffix.length_le
      obtain ⟨fuel, rfl⟩ : ∃ more, fuel = more + 1 := Nat.exists_eq_succ_of_ne_zero (by omega)
      rw [Reader.items, ih fuel _ (by omega) before]
      simp only [after.skip_eq rfl]
  | item before first after _ ih ihOthers =>
      intro fuel enough
      have length := before.suffix.length_le
      have shorter := (after.suffix.trans first.suffix).length_le
      rw [List.length_cons] at shorter
      obtain ⟨fuel, rfl⟩ : ∃ more, fuel = more + 1 := Nat.exists_eq_succ_of_ne_zero (by omega)
      rw [Reader.items, ih fuel _ (by omega) before]
      simp only [after.skip_eq rfl, ihOthers fuel (by omega), Option.map_some]
  | emptyObject h =>
      intro fuel cs' _ before
      rw [Reader.value, before.skip_eq rfl]
      simp only [h.skip_eq rfl]
      rfl
  | object h ih =>
      intro fuel cs' enough before
      rw [List.length_cons] at enough
      obtain ⟨fuel, rfl⟩ : ∃ more, fuel = more + 1 := Nat.exists_eq_succ_of_ne_zero (by omega)
      rw [Reader.value, before.skip_eq rfl]
      simp only
      split
      · next after mark => exact absurd mark (h.skip_ne_of_fields after)
      · rw [ih fuel _ (by omega), Option.map_some, entries_ofList]
  | lastField before name colon between first after ih =>
      intro fuel found enough
      have length := (suffix_of_key before name colon between).length_le
      obtain ⟨fuel, rfl⟩ : ∃ more, fuel = more + 1 := Nat.exists_eq_succ_of_ne_zero (by omega)
      rw [Reader.fields, before.skip_eq rfl]
      simp only [string_eq_some_iff.2 name, colon.skip_eq rfl, ih fuel _ (by omega) between,
        after.skip_eq rfl]
      rfl
  | field before name colon between first after _ ih ihOthers =>
      intro fuel found enough
      have length := (suffix_of_key before name colon between).length_le
      have shorter := (after.suffix.trans first.suffix).length_le
      rw [List.length_cons] at shorter
      obtain ⟨fuel, rfl⟩ : ∃ more, fuel = more + 1 := Nat.exists_eq_succ_of_ne_zero (by omega)
      rw [Reader.fields, before.skip_eq rfl]
      simp only [string_eq_some_iff.2 name, colon.skip_eq rfl, ih fuel _ (by omega) between,
        after.skip_eq rfl, ihOthers fuel _ (by omega)]
      rfl

/-! ## Whole texts -/

theorem skip_eq_nil_iff {cs : List Char} : skip cs = [] ↔ Blanks cs [] := by
  refine ⟨fun none => none ▸ blanks_skip cs, ?_⟩
  rintro ⟨blanks, blank, rfl⟩
  rw [skip, List.dropWhile_append_of_pos blank, List.dropWhile_nil]

/-- A text is read as a document exactly if it is written so, with blanks around it. -/
theorem readChars?_eq_some_iff {cs : List Char} {v : Json} :
    readChars? cs = some v ↔ ∃ cs' rest, Blanks cs cs' ∧
      Written maxDepth (.value v) cs' rest ∧ Blanks rest [] := by
  constructor
  · intro h
    rw [readChars?] at h
    split at h
    · next v' rest read =>
        obtain ⟨cs', before, written⟩ := (follows _).value read
        simp only [Option.ite_none_right_eq_some, Option.some.injEq, List.isEmpty_iff] at h
        obtain ⟨after, rfl⟩ := h
        exact ⟨cs', rest, before, written, skip_eq_nil_iff.1 after⟩
    · cases h
  · rintro ⟨cs', rest, before, written, after⟩
    have length := before.suffix.length_le
    have read := written.isRead (2 * cs.length + 1) cs (by omega) before
    rw [readChars?, read]
    simp only [skip_eq_nil_iff.2 after, List.isEmpty_nil, if_true]

/-- What is written with so many levels can be written where there is room for more. -/
theorem Written.mono {depth depth' : Nat} {part : Part} {cs rest : List Char}
    (h : Written depth part cs rest) (more : depth ≤ depth') : Written depth' part cs rest := by
  induction h generalizing depth' with
  | null => exact .null
  | yes => exact .yes
  | no => exact .no
  | num h => exact .num h
  | str h => exact .str h
  | emptyArr h =>
      obtain ⟨depth', rfl⟩ := Nat.exists_eq_succ_of_ne_zero (Nat.ne_zero_of_lt more)
      exact .emptyArr h
  | arr _ ih =>
      obtain ⟨depth', rfl⟩ := Nat.exists_eq_succ_of_ne_zero (Nat.ne_zero_of_lt more)
      exact .arr (ih (Nat.le_of_succ_le_succ more))
  | obj _ ih => exact .obj (ih more)
  | lastItem before _ after ih => exact .lastItem before (ih more) after
  | item before _ after _ ih ihOthers => exact .item before (ih more) after (ihOthers more)
  | emptyObject h =>
      obtain ⟨depth', rfl⟩ := Nat.exists_eq_succ_of_ne_zero (Nat.ne_zero_of_lt more)
      exact .emptyObject h
  | object _ ih =>
      obtain ⟨depth', rfl⟩ := Nat.exists_eq_succ_of_ne_zero (Nat.ne_zero_of_lt more)
      exact .object (ih (Nat.le_of_succ_le_succ more))
  | lastField before name colon between _ after ih =>
      exact .lastField before name colon between (ih more) after
  | field before name colon between _ after _ ih ihOthers =>
      exact .field before name colon between (ih more) after (ihOthers more)

/-- A text begins with one document only. -/
theorem Written.unique {depth : Nat} {v v' : Json} {cs rest rest' : List Char}
    (h : Written depth (.value v) cs rest) (h' : Written depth (.value v') cs rest') :
    v = v' ∧ rest = rest' := by
  have read := h.isRead (2 * cs.length) cs (Nat.le_refl _) (.refl cs)
  rw [h'.isRead (2 * cs.length) cs (Nat.le_refl _) (.refl cs)] at read
  cases read
  exact ⟨rfl, rfl⟩

/-! ## Printed texts -/

theorem hex?_hexDigit : ∀ n < 0x20,
    hex? '0' '0' (Printer.hexDigit (n / 16)) (Printer.hexDigit (n % 16)) = some n ∧
      isLead n = false ∧ isTrail n = false := by
  decide

theorem escaped?_of_escape? {c letter : Char} (h : Printer.escape? c = some letter) :
    escaped? letter = some c := by
  rw [Printer.escape?] at h
  split at h
  · next mark =>
      cases h
      rw [escaped?, if_pos (mark.imp_right .inl)]
  · repeat' split at h
    all_goals cases h
    all_goals
      subst_vars
      rfl

/-- A character is printed in one of the ways to write it. -/
theorem spells_char (c : Char) : Spells c (Printer.char c) := by
  rw [Printer.char]
  split
  · next escaped => exact .escape (escaped?_of_escape? escaped)
  · next none =>
      have noMark : ¬ (c = '"' ∨ c = '\\') := fun mark => by
        rw [Printer.escape?, if_pos mark] at none
        cases none
      obtain ⟨noQuote, noEscape⟩ := not_or.1 noMark
      split
      · next control =>
          obtain ⟨number, noLead, noTrail⟩ := hex?_hexDigit _ control
          have spelled := Spells.unit number noLead noTrail
          rwa [Char.ofNat_toNat] at spelled
      · next printable => exact .plain (Nat.not_lt.1 printable) noQuote noEscape

theorem spelled_flatMap (s rest : List Char) :
    Spelled (s.flatMap Printer.char ++ '"' :: rest) s rest := by
  induction s with
  | nil => exact .stop
  | cons c s ih =>
      rw [List.flatMap_cons, List.append_assoc]
      exact .next (spells_char c) ih

variable {depth : Nat}

/-- The document is printed as the grammar has it. -/
def IsPrinted (depth : Nat) (v : Json) : Prop :=
  ∀ rest, Written depth (.value v) (Printer.value v ++ rest) rest

theorem isPrinted_str (s : String) : IsPrinted depth (.str s) := by
  intro rest
  have written : Written depth _ _ rest := .str (spelled_flatMap s.toList rest)
  rw [String.ofList_toList] at written
  rw [Printer.value, Printer.string]
  simpa using written

theorem written_fields {field : String × Json} {fields : List (String × Json)}
    (first : IsPrinted depth field.2) (others : ∀ field ∈ fields, IsPrinted depth field.2)
    (rest : List Char) : Written depth (.fields (field :: fields))
      (Printer.string field.1 ++ ':' :: Printer.value field.2 ++ Printer.fields fields ++ rest)
      rest := by
  induction fields generalizing field with
  | nil =>
      have written := Written.lastField (.refl _) (spelled_flatMap field.1.toList (':' :: _))
        (.refl _) (.refl _) (first ('\x7d' :: rest)) (.refl _)
      rw [String.ofList_toList] at written
      simpa [Printer.string, Printer.fields] using written
  | cons next fields ih =>
      obtain ⟨second, others⟩ := List.forall_mem_cons.1 others
      have written := Written.field (.refl _) (spelled_flatMap field.1.toList (':' :: _)) (.refl _)
        (.refl _) (first (',' :: _)) (.refl _) (ih second others)
      rw [String.ofList_toList] at written
      simpa [Printer.string, Printer.fields] using written

/-- An object is printed as the grammar has it if all its values are. -/
theorem written_object {fields : List (String × Json)}
    (h : ∀ field ∈ fields, IsPrinted depth field.2) (rest : List Char) :
    Written (depth + 1) (.object fields) (Printer.value (.obj fields) ++ rest) rest := by
  cases fields with
  | nil =>
      exact .emptyObject (.refl _)
  | cons field fields =>
      obtain ⟨first, others⟩ := List.forall_mem_cons.1 h
      exact .object (written_fields first others rest)

/-- A document that is printed as the grammar has it is read back. -/
theorem IsPrinted.read?_text {v : Json} (h : IsPrinted maxDepth v) : read? (text v) = some v := by
  have written := h []
  rw [List.append_nil] at written
  rw [read?, text, String.toList_ofList]
  exact readChars?_eq_some_iff.2 ⟨_, [], .refl _, written, .refl _⟩

end OfferDispatch.Json
