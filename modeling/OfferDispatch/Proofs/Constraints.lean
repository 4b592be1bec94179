import Mathlib.Data.List.Induction
import OfferDispatch.Proofs.Documents
import OfferDispatch.Proofs.Shown

/-!
# Constraints are read leniently

Selectors that are written as documents are read as they were, in whatever order and spelling their
entries are typed. An entry that is no selector is passed over without a trace, while a selector with
one value that is no text, number or truth value constrains nothing at all. The entries of an object
do not touch each other, as long as the whole nests no deeper than documents may: one entry that
nests too deep makes the text unreadable, and then no label is constrained.
-/

namespace OfferDispatch

/-! ## What tables answer -/

theorem lookup_cons_eq_ite {α : Type} (key : String) (pair : String × α) (l : List (String × α)) :
    (pair :: l).lookup key = if key = pair.1 then some pair.2 else l.lookup key := by
  by_cases same : key = pair.1
  · rw [List.lookup_cons, beq_iff_eq.2 same, if_pos same]
  · rw [List.lookup_cons, beq_eq_false_iff_ne.2 same, if_neg same]

theorem lookup_insertPair {α : Type} (key name : String) (value : α) (l : List (String × α)) :
    (insertPair key value l).lookup name = if name = key then some value else l.lookup name := by
  induction l with
  | nil => exact lookup_cons_eq_ite name (key, value) []
  | cons pair l ih =>
      rw [insertPair]
      split
      · exact lookup_cons_eq_ite name (key, value) (pair :: l)
      rw [lookup_cons_eq_ite name pair l]
      split
      · next same =>
          rw [lookup_cons_eq_ite, ← same]
          split <;> rfl
      · next other =>
          rw [lookup_cons_eq_ite, ih]
          by_cases named : name = pair.1
          · have unlike : name ≠ key := fun same => other (same ▸ named)
            rw [if_pos named, if_neg unlike, if_pos named]
          · rw [if_neg named, if_neg named]

namespace Table

variable {α : Type} {s t : Table α} {key label : String} {value : α}

theorem get?_insert : (t.insert key value).get? label =
    if label = key then some value else t.get? label :=
  lookup_insertPair key label value t.entries

theorem nodup_keys (t : Table α) : (t.entries.map Prod.fst).Nodup := by
  refine List.Pairwise.imp (fun {a b} less => ?_) t.ascending
  rintro rfl
  exact String.lt_irrefl _ less

theorem mem_entries_iff : (key, value) ∈ t.entries ↔ t.get? key = some value := by
  refine ⟨lookup_eq_some_of_mem t.nodup_keys, fun found => ?_⟩
  obtain ⟨before, after, split, -⟩ := List.lookup_eq_some_iff.1 found
  rw [split]
  exact List.mem_append_right _ (List.mem_cons_self ..)

/-- Two tables that answer every look-up alike are equal. -/
theorem ext_get? (h : ∀ key, s.get? key = t.get? key) : s = t := by
  refine ext_entries ?_
  have same : s.entries.Perm t.entries := by
    refine (List.perm_ext_iff_of_nodup s.nodup_keys.of_map t.nodup_keys.of_map).2 fun pair => ?_
    rw [mem_entries_iff, mem_entries_iff, h]
  refine same.eq_of_pairwise (fun p q _ _ less greater => ?_) (List.pairwise_map.1 s.ascending)
    (List.pairwise_map.1 t.ascending)
  exact absurd (String.lt_trans less greater) (String.lt_irrefl _)

theorem ofList_concat (pairs : List (String × α)) (pair : String × α) :
    ofList (pairs ++ [pair]) = (ofList pairs).insert pair.1 pair.2 := by
  rw [ofList, List.foldl_append]
  rfl

/-- What a table answers was in the list that built it up. -/
theorem mem_of_get?_ofList {pairs : List (String × α)} (h : (ofList pairs).get? key = some value) :
    (key, value) ∈ pairs := by
  induction pairs using List.reverseRecOn with
  | nil => cases h
  | append_singleton pairs pair ih =>
      rw [ofList_concat, get?_insert] at h
      split at h
      · next same =>
          cases h
          subst same
          exact List.mem_append_right _ (List.mem_singleton.2 rfl)
      · exact List.mem_append_left _ (ih h)

/-- Pairs of other keys make no difference. -/
theorem get?_ofList_filter {pairs : List (String × α)} {others : List String}
    (apart : key ∉ others) :
    (ofList (pairs.filter fun pair => pair.1 ∉ others)).get? key = (ofList pairs).get? key := by
  induction pairs using List.reverseRecOn with
  | nil => rfl
  | append_singleton pairs pair ih =>
      rw [List.filter_append, ofList_concat, get?_insert]
      by_cases other : pair.1 ∈ others
      · have unlike : key ≠ pair.1 := fun same => apart (same ▸ other)
        rw [List.filter_cons_of_neg (by simpa using other), List.filter_nil, List.append_nil, ih,
          if_neg unlike]
      · rw [List.filter_cons_of_pos (by simpa using other), List.filter_nil, ofList_concat,
          get?_insert, ih]

variable {β : Type}

def mapValues (t : Table α) (f : α → β) : Table β :=
  ⟨t.entries.map fun pair => (pair.1, f pair.2), by
    rw [Ascending, List.map_map]
    exact t.ascending⟩

theorem get?_mapValues (t : Table α) (f : α → β) (key : String) :
    (t.mapValues f).get? key = (t.get? key).map f := by
  change (t.entries.map _).lookup key = (t.entries.lookup key).map f
  induction t.entries with
  | nil => rfl
  | cons pair l ih =>
      rw [List.map_cons, lookup_cons_eq_ite, lookup_cons_eq_ite, ih]
      split <;> rfl

end Table

/-! ## Plain values and flat objects -/

/-- A text, a number or a truth value. -/
def Json.IsPlain : Json → Prop
  | .str _ | .num _ | .bool _ => True
  | .null | .arr _ | .obj _ => False

/-- An object of plain values. -/
def Json.IsFlat : Json → Prop
  | .obj fields => ∀ field ∈ fields, field.2.IsPlain
  | .null | .bool _ | .num _ | .str _ | .arr _ => False

namespace Selector

theorem isSome_pair?_iff {field : String × Json} : (pair? field).isSome = true ↔ field.2.IsPlain := by
  obtain ⟨name, d⟩ := field
  cases d <;> simp [pair?, wanted?, Json.IsPlain]

theorem isSome_mapM_pair?_iff {fields : List (String × Json)} :
    (fields.mapM pair?).isSome = true ↔ ∀ field ∈ fields, field.2.IsPlain := by
  induction fields with
  | nil => simp
  | cons field fields ih =>
      rw [List.forall_mem_cons, ← ih, ← isSome_pair?_iff, List.mapM_cons]
      cases pair? field <;> cases fields.mapM pair? <;> simp

/-- Only a flat object stands for a selector. -/
theorem isSome_ofJson?_iff {d : Json} : (ofJson? d).isSome = true ↔ d.IsFlat := by
  cases d with
  | obj fields => rw [ofJson?, Option.isSome_map, isSome_mapM_pair?_iff, Json.IsFlat]
  | null | bool | num | str | arr => simp [ofJson?, Json.IsFlat]

theorem ofJson?_eq_none {d : Json} (h : ¬ d.IsFlat) : ofJson? d = none := by
  rw [← Option.not_isSome_iff_eq_none, isSome_ofJson?_iff]
  exact h

/-- The document of a selector stands for the selector. -/
theorem ofJson?_encode (s : Selector) : ofJson? (Document.encode s) = some s := by
  have read : (s.pairs.entries.map fun pair => (pair.1, Json.str pair.2)).mapM pair? =
      some s.pairs.entries :=
    Document.mapM_map_eq_some fun _ _ => rfl
  change Option.map ofPairs _ = some s
  rw [read, Option.map_some, ofPairs, Table.ofList_entries]

end Selector

namespace LabelSelectors

variable {s : LabelSelectors} {label : String}

theorem ext_find? {s t : LabelSelectors} (h : ∀ label, s.find? label = t.find? label) : s = t := by
  obtain ⟨s⟩ := s
  obtain ⟨t⟩ := t
  exact congrArg mk (Table.ext_get? h)

theorem find?_addEntry (entry : String × Json) : (s.addEntry entry).find? label =
    if label = entry.1 then (Selector.ofJson? entry.2).or (s.find? label) else s.find? label := by
  rw [addEntry]
  cases Selector.ofJson? entry.2 with
  | none => rw [Option.none_or, ite_self]
  | some selector => exact Table.get?_insert

/-- Entries of different labels do not touch each other. -/
theorem find?_foldl_addEntry {fields : List (String × Json)}
    (distinct : (fields.map Prod.fst).Nodup) : (fields.foldl addEntry s).find? label =
      ((fields.lookup label).bind Selector.ofJson?).or (s.find? label) := by
  induction fields generalizing s with
  | nil => rfl
  | cons field fields ih =>
      obtain ⟨first, others⟩ := List.nodup_cons.1 distinct
      rw [List.foldl_cons, ih others, find?_addEntry, lookup_cons_eq_ite]
      by_cases same : label = field.1
      · have absent : fields.lookup label = Option.none := by
          refine List.lookup_eq_none_iff.2 fun other there => ?_
          refine bne_iff_ne.2 fun again => first ?_
          rw [← same, again]
          exact List.mem_map_of_mem there
        rw [if_pos same, if_pos same, absent]
        rfl
      · rw [if_neg same, if_neg same]

/-- The selector of a label is what its own entry stands for. -/
theorem find?_ofJson (t : Table Json) :
    (ofJson (.obj t.entries)).find? label = (t.get? label).bind Selector.ofJson? := by
  rw [ofJson, find?_foldl_addEntry t.nodup_keys]
  exact Option.or_none

/-- Selectors as an operator writes them. -/
def document (s : LabelSelectors) : Json := .obj (s.table.mapValues Document.encode).entries

/-- The document of selectors stands for them. -/
theorem ofJson_document (s : LabelSelectors) : ofJson s.document = s := by
  refine ext_find? fun label => ?_
  rw [document, find?_ofJson, Table.get?_mapValues, find?]
  cases s.table.get? label with
  | none => rfl
  | some selector => exact Selector.ofJson?_encode selector

end LabelSelectors

/-! ## Texts of constraints -/

open Json Text

variable {depth : Nat} {raw : String}

theorem Json.IsPrinted.mono {depth' : Nat} {d : Json} (h : IsPrinted depth d)
    (more : depth ≤ depth') : IsPrinted depth' d :=
  fun rest => (h rest).mono more

theorem isPrinted_table {t : Table Json} (h : ∀ field ∈ t.entries, IsPrinted depth field.2) :
    IsPrinted (depth + 1) (.obj t.entries) := fun rest => by
  have written := Written.obj (written_object h rest)
  rwa [Table.ofList_entries] at written

theorem isPrinted_selector (s : Selector) : IsPrinted (depth + 1) (Document.encode s) :=
  isPrinted_table (t := s.pairs.mapValues Json.str) <|
    List.forall_mem_map.2 fun pair _ => isPrinted_str pair.2

theorem isPrinted_labelSelectors (s : LabelSelectors) : IsPrinted (depth + 2) s.document :=
  isPrinted_table (t := s.table.mapValues Document.encode) <|
    List.forall_mem_map.2 fun entry _ => isPrinted_selector entry.2

/-- A value is read from every text that shows its document, and from the printed document with
blanks around it. -/
def ReadsBack {α : Type} (read : String → α) (document : α → Json) : Prop :=
  ∀ a : α, (∀ raw, Shows maxDepth raw (.value (document a)) → read raw = a) ∧
    ∀ before after, isBlankText before = true → isBlankText after = true →
      read (before ++ Json.text (document a) ++ after) = a

theorem readsBack {α : Type} {read : String → α} {document : α → Json}
    (printed : ∀ a, IsPrinted maxDepth (document a))
    (shown : ∀ a raw, Shows maxDepth raw (.value (document a)) → read raw = a) :
    ReadsBack read document :=
  fun a => ⟨shown a, fun _ _ blankBefore blankAfter =>
    shown a _ ((printed a).shows blankBefore blankAfter)⟩

theorem LabelSelectors.readsBack : ReadsBack LabelSelectors.read LabelSelectors.document := by
  refine OfferDispatch.readsBack isPrinted_labelSelectors fun s raw shown => ?_
  rw [read, document?_eq_some_iff.2 shown]
  exact ofJson_document s

theorem Selector.readsBack : ReadsBack Selector.read Document.encode := by
  refine OfferDispatch.readsBack isPrinted_selector fun s raw shown => ?_
  rw [read, document?_eq_some_iff.2 shown, Option.bind_some]
  exact congrArg (Option.getD · any) (ofJson?_encode s)

/-- The selector of a label is what the last entry of the label stands for. -/
theorem LabelSelectors.find?_read {es : List (String × Json)} {label : String}
    (h : Shows maxDepth raw (.object es)) :
    (read raw).find? label = ((Table.ofList es).get? label).bind Selector.ofJson? := by
  rw [read, document?_eq_some_iff.2 (shows_value_iff.2 ⟨es, rfl, h⟩)]
  exact find?_ofJson (Table.ofList es)

/-- If anything is read from a text that shows an object, then it is the object. -/
theorem Json.Shows.eq_of_document? {es : List (String × Json)} (h : Shows depth raw (.object es))
    {d : Json} (read : Selector.document? raw = some d) : d = .obj (Table.ofList es).entries := by
  rw [Selector.document?, read?, trim, String.toList_ofList, readChars?_eq_some_iff] at read
  obtain ⟨text, rest, before, written, -⟩ := read
  have object : Written depth (.value (.obj (Table.ofList es).entries)) _ [] := .obj h.written
  have whole : text = trimChars raw.toList := by
    rw [← written.skip_eq before, object.skip_eq (.refl _)]
  subst whole
  have same := (written.mono (Nat.le_max_left maxDepth depth)).unique
    (object.mono (Nat.le_max_right maxDepth depth))
  exact same.1

/-- A value that is not plain leaves nothing of a selector. -/
theorem Selector.read_eq_any {es : List (String × Json)} (h : Shows depth raw (.object es))
    {name : String} {d : Json} (found : (Table.ofList es).get? name = some d) (bad : ¬ d.IsPlain) :
    read raw = any := by
  rw [read]
  cases document : document? raw with
  | none => rfl
  | some whole =>
      have notFlat : ¬ whole.IsFlat := by
        rw [h.eq_of_document? document]
        exact fun flat => bad (flat (name, d) (Table.mem_entries_iff.2 found))
      rw [Option.bind_some, ofJson?_eq_none notFlat]
      rfl

/-- Without an object there are no constraints. -/
theorem read_eq_none (h : ∀ es, ¬ Shows maxDepth raw (.object es)) :
    LabelSelectors.read raw = .none ∧ Selector.read raw = .any := by
  rw [LabelSelectors.read, Selector.read]
  cases document : Selector.document? raw with
  | none => exact ⟨rfl, rfl⟩
  | some d =>
      cases d with
      | obj fields =>
          obtain ⟨es, -, shown⟩ := shows_value_iff.1 (document?_eq_some_iff.1 document)
          exact absurd shown (h es)
      | null | bool | num | str | arr => exact ⟨rfl, rfl⟩

/-- A label whose entries are no selectors gets none. -/
theorem LabelSelectors.find?_read_eq_none {es : List (String × Json)} {label : String}
    (h : Shows maxDepth raw (.object es)) (bad : ∀ d, (label, d) ∈ es → ¬ d.IsFlat) :
    (read raw).find? label = Option.none := by
  rw [find?_read h, Option.bind_eq_none_iff]
  exact fun d found => Selector.ofJson?_eq_none (bad d (Table.mem_of_get?_ofList found))

/-- Entries that are no selectors are passed over without a trace. -/
theorem LabelSelectors.read_eq_read {raw' : String} {es : List (String × Json)}
    {others : List String} (h : Shows maxDepth raw (.object es))
    (h' : Shows maxDepth raw' (.object (es.filter fun entry => entry.1 ∉ others)))
    (bad : ∀ entry ∈ es, entry.1 ∈ others → ¬ entry.2.IsFlat) : read raw = read raw' := by
  refine ext_find? fun label => ?_
  by_cases other : label ∈ others
  · have nothing := find?_read_eq_none h fun d there => bad (label, d) there other
    have absent : (read raw').find? label = Option.none := find?_read_eq_none h' fun d there =>
      absurd other (of_decide_eq_true (List.mem_filter.1 there).2)
    rw [nothing, absent]
  · rw [find?_read h, find?_read h', Table.get?_ofList_filter other]

/-- Selectors are read back from whatever shows their document, and nothing comes of a text that is
no object. An object of labels is read entry by entry: entries that are no flat objects change no
other label and add none. A selector is read as a whole: one value that is not plain and nothing is
asked for. -/
theorem constraints_survive_mistakes :
    ReadsBack LabelSelectors.read LabelSelectors.document ∧
    (∀ (raw raw' : String) (es : List (String × Json)) (others : List String),
      Shows maxDepth raw (.object es) →
      Shows maxDepth raw' (.object (es.filter fun entry => entry.1 ∉ others)) →
      (∀ entry ∈ es, entry.1 ∈ others → ¬ entry.2.IsFlat) →
        LabelSelectors.read raw = LabelSelectors.read raw' ∧
        ∀ label ∈ others, (LabelSelectors.read raw).find? label = Option.none) ∧
    ReadsBack Selector.read Document.encode ∧
    (∀ (depth : Nat) (raw : String) (es : List (String × Json)) (name : String) (d : Json),
      Shows depth raw (.object es) → (Table.ofList es).get? name = some d → ¬ d.IsPlain →
        Selector.read raw = .any) ∧
    ∀ raw : String, (∀ es, ¬ Shows maxDepth raw (.object es)) →
      LabelSelectors.read raw = .none ∧ Selector.read raw = .any := by
  refine ⟨LabelSelectors.readsBack, fun raw raw' es others shown shown' bad => ⟨?_, ?_⟩,
    Selector.readsBack, fun depth raw es name d shown found bad =>
      Selector.read_eq_any shown found bad, fun raw => read_eq_none⟩
  · exact LabelSelectors.read_eq_read shown shown' bad
  · exact fun label other =>
      LabelSelectors.find?_read_eq_none shown fun d there => bad (label, d) there other

namespace Plain

def nested : Nat → Json
  | 0 => .arr []
  | levels + 1 => .arr [nested levels]

theorem isPrinted_nested (levels : Nat) : IsPrinted (levels + 1) (nested levels) := by
  induction levels with
  | zero => exact fun rest => .emptyArr (.refl _)
  | succ levels ih =>
      intro rest
      have written := Written.arr (.lastItem (.refl _) (ih (']' :: rest)) (.refl _))
      simpa [nested, Printer.value, Printer.items] using written

/-- A label whose workers ask for a certain system. -/
def onUbuntu : String × Json := ("linux", .obj [("os", .str "ubuntu")])

theorem isPrinted_onUbuntu {depth : Nat} : IsPrinted (depth + 1) onUbuntu.2 :=
  isPrinted_selector ⟨.ofList [("os", "ubuntu")]⟩

/-- An entry that nests so deep that with the object around it there are 128 levels. -/
def deepEntry : String × Json := ("deep", nested 126)

/-- One entry that nests too deep takes the selector of another label along. -/
theorem deep_entry_hides_selector :
    Shows 128 (Json.text (.obj [onUbuntu, deepEntry])) (.object [onUbuntu, deepEntry]) ∧
      ¬ deepEntry.2.IsFlat ∧
      (LabelSelectors.read (Json.text (.obj [onUbuntu]))).find? "linux" =
        some ⟨.ofList [("os", "ubuntu")]⟩ ∧
      (LabelSelectors.read (Json.text (.obj [onUbuntu, deepEntry]))).find? "linux" = none := by
  have printed : ∀ entry ∈ [onUbuntu, deepEntry], IsPrinted 127 entry.2 :=
    List.forall_mem_cons.2
      ⟨isPrinted_onUbuntu, List.forall_mem_singleton.2 (isPrinted_nested 126)⟩
  have unread : Selector.document? (Json.text (.obj [onUbuntu, deepEntry])) = none := by
    rw [document?_text, ← Option.isNone_iff_eq_none]
    decide +kernel
  refine ⟨shows_text_obj printed, not_false, by decide +kernel, ?_⟩
  rw [LabelSelectors.read, unread]
  rfl

def brokenEntry : String × Json := ("broken", .str "nope")

theorem constraints_survive_mistakes_mixed :
    let selectors : LabelSelectors := ⟨.ofList [("linux", ⟨.ofList [("os", "ubuntu")]⟩)]⟩
    let mixed := Json.text (.obj [brokenEntry, onUbuntu])
    let halved := Json.text (.obj [("os", .str "ubuntu"), ("zone", .null)])
    LabelSelectors.read ("\n" ++ Json.text selectors.document ++ " ") = selectors ∧
      LabelSelectors.read mixed = LabelSelectors.read (Json.text (.obj [onUbuntu])) ∧
      (LabelSelectors.read mixed).find? "broken" = none ∧
      Selector.read halved = .any ∧
      LabelSelectors.read "[1, 2]" = .none := by
  intro selectors mixed halved
  obtain ⟨back, apart, -, whole, nothing⟩ := constraints_survive_mistakes
  have printed : ∀ entry ∈ [brokenEntry, onUbuntu], IsPrinted 126 entry.2 :=
    List.forall_mem_cons.2 ⟨isPrinted_str _, List.forall_mem_singleton.2 isPrinted_onUbuntu⟩
  have shown : Shows maxDepth mixed (.object [brokenEntry, onUbuntu]) := shows_text_obj printed
  have others : Shows maxDepth (Json.text (.obj [onUbuntu])) (.object [onUbuntu]) :=
    shows_text_obj (List.forall_mem_cons.1 printed).2
  have bad : ∀ entry ∈ [brokenEntry, onUbuntu], entry.1 ∈ ["broken"] → ¬ entry.2.IsFlat :=
    List.forall_mem_cons.2 ⟨fun _ => not_false, List.forall_mem_singleton.2 fun named =>
      absurd named (by decide)⟩
  obtain ⟨same, absent⟩ := apart mixed _ _ ["broken"] shown others bad
  have half : Shows 1 halved (.object [("os", .str "ubuntu"), ("zone", .null)]) :=
    shows_text_obj <| List.forall_mem_cons.2
      ⟨isPrinted_str _, List.forall_mem_singleton.2 fun _ => .null⟩
  have array : ∀ es, ¬ Shows maxDepth "[1, 2]" (.object es) := by
    intro es object
    obtain ⟨middle, braces⟩ := object.written.exists_braces
    cases braces
  exact ⟨(back selectors).2 "\n" " " (by decide) (by decide), same, absent "broken" (by decide),
    whole 1 halved _ "zone" .null half rfl not_false, (nothing "[1, 2]" array).1⟩

end Plain

end OfferDispatch
