import Mathlib.Logic.Function.Basic
import OfferDispatch.Config.Environment
import OfferDispatch.Proofs.Numerals
import OfferDispatch.Proofs.Shown

/-!
# What settings are read from an environment

A text is looked at without the blanks around it. If nothing is left, or nothing was found, then the
setting takes its default. A number is a numeral below the bound, and a truth value is one of eight
words in small letters or capitals. Of several settings that can be read as neither the first one in
the order of reading is told, with its text as it was found.

No other text matters for that. The constraints are the only other text that is parsed at all, and
whatever comes of them, everything else stays as it is.
-/

namespace OfferDispatch

open Text

/-! ## Texts between blanks -/

/-- The text is these characters with blanks around them, and they have none at their ends. -/
def Text.Wraps (raw : String) (cs : List Char) : Prop :=
  ∃ before after : List Char, raw.toList = before ++ cs ++ after ∧
    (∀ c ∈ before, isBlank c = true) ∧ (∀ c ∈ after, isBlank c = true) ∧
    (∀ c ∈ cs.head?, isBlank c = false) ∧ ∀ c ∈ cs.getLast?, isBlank c = false

theorem Text.wraps_iff {raw : String} {cs : List Char} :
    Wraps raw cs ↔ trimChars raw.toList = cs := by
  constructor
  · rintro ⟨before, after, around, blankBefore, blankAfter, first, last⟩
    rw [around, trimChars_eq blankBefore blankAfter first last]
  · rintro rfl
    obtain ⟨before, after, around, blankBefore, blankAfter⟩ := exists_trimChars raw.toList
    refine ⟨before, after, around, blankBefore, blankAfter, fun c first => ?_, fun c last => ?_⟩
    · obtain ⟨rest, left⟩ := List.head?_eq_some_iff.1 first
      have left' : c :: rest <+: raw.toList.dropWhile isBlank := left ▸ List.rdropWhile_prefix ..
      obtain ⟨_, whole⟩ := left'
      have visible := List.head?_dropWhile_not isBlank raw.toList
      rwa [← whole] at visible
    · obtain ⟨front, left⟩ := List.getLast?_eq_some_iff.1 last
      by_contra blank
      have suffix : [c] <:+ trimChars raw.toList := left ▸ List.suffix_append ..
      cases eq_nil_of_suffix_trimChars (by simpa using blank) suffix

theorem Text.isBlankText_iff {raw : String} :
    isBlankText raw = true ↔ trimChars raw.toList = [] := by
  rw [isBlankText, List.all_eq_true]
  constructor
  · intro blank
    have none : trimStart raw.toList = [] := List.dropWhile_eq_nil_iff.2 blank
    rw [trimChars, none]
    rfl
  · intro none
    obtain ⟨before, after, around, blankBefore, blankAfter⟩ := exists_trimChars raw.toList
    rw [around, none, List.append_nil]
    exact List.forall_mem_append.2 ⟨blankBefore, blankAfter⟩

namespace Config

/-! ## What is read -/

/-- The value of a setting: its default if nothing is found or only blanks, and else what the text
between the blanks means. -/
inductive Takes {α : Type} (means : List Char → α → Prop) (default : α) : Option String → α → Prop
  | absent : Takes means default none default
  | blank {raw : String} (nothing : Wraps raw []) : Takes means default (some raw) default
  | given {raw : String} {cs : List Char} {value : α} (wraps : Wraps raw cs) (something : cs ≠ [])
      (h : means cs value) : Takes means default (some raw) value

/-- The characters are a numeral that is not too large. -/
def IsNumber (cs : List Char) (n : Nat) : Prop := IsNumeral cs n ∧ n < 2 ^ 64

/-- The words for a truth value. -/
def words : Bool → List String
  | true => ["1", "true", "yes", "on"]
  | false => ["0", "false", "no", "off"]

/-- The characters are a word for the truth value, in small letters or capitals. -/
def IsFlag (cs : List Char) (b : Bool) : Prop := String.ofList (cs.map Char.toLower) ∈ words b

structure Answers where
  capacity : Nat
  offerWait : Nat
  declineFor : Nat
  affinitySize : Nat
  queueSize : Nat
  agentTimeout : Nat
  multiThreaded : Bool
  onDemand : Bool

namespace Answers

structure Given (env : Environment) (a : Answers) : Prop where
  capacity : Takes IsNumber 100 (env "FLEET_OFFER_QUEUE_CAPACITY") a.capacity
  offerWait : Takes IsNumber 600 (env "FLEET_OFFER_WAIT_SECS") a.offerWait
  declineFor : Takes IsNumber 600 (env "FLEET_DECLINE_OFFER_SECS") a.declineFor
  affinitySize : Takes IsNumber 10 (env "FLEET_AFFINITY_CACHE_SIZE") a.affinitySize
  queueSize : Takes IsNumber 16 (env "FLEET_COMMAND_QUEUE_SIZE") a.queueSize
  agentTimeout : Takes IsNumber 600 (env "FLEET_AGENT_TIMEOUT_SECS") a.agentTimeout
  multiThreaded : Takes IsFlag false (env "FLEET_MULTI_THREADED") a.multiThreaded
  onDemand : Takes IsFlag true (env "FLEET_ON_DEMAND_REGISTRATION") a.onDemand

/-- The settings that follow, with the texts of the environment as they are. -/
def config (env : Environment) (a : Answers) : Config where
  master := (env "FLEET_MASTER_URL").getD "http://127.0.0.1:5050"
  logLevel := (env "FLEET_LOG_LEVEL").getD "info"
  framework := {
    name := (env "FLEET_FRAMEWORK_NAME").getD "fleet-scheduler"
    user := (env "FLEET_USER").getD ""
    role := (env "FLEET_ROLE").getD anyRole
    principal := (env "FLEET_PRINCIPAL").getD "fleet"
    id := none }
  scheduler := {
    role := (env "FLEET_ROLE").getD anyRole
    controller := (env "FLEET_CONTROLLER_URL").getD "http://127.0.0.1:8080/"
    capacity := a.capacity
    offerWait := .ofSeconds a.offerWait
    declineFor := .ofSeconds a.declineFor
    multiThreaded := a.multiThreaded
    onDemand := a.onDemand
    affinitySize := a.affinitySize
    labels := .read ((env "FLEET_SLAVE_ATTRIBUTES").getD "") }
  pipeline := {
    queueSize := max a.queueSize 1
    agentTimeout := .ofSeconds a.agentTimeout
    pollInterval := .ofSeconds 1 }

end Answers

/-! ## What is refused -/

/-- Settings are numbers or truth values. -/
inductive Kind
  | number
  | flag

/-- Do the characters mean anything? -/
def Kind.Admits : Kind → List Char → Prop
  | number, cs => ∃ n, IsNumber cs n
  | flag, cs => ∃ b, IsFlag cs b

/-- What is told of characters that mean nothing: of a number if it is too large, of a truth value
nothing more. -/
def Kind.Blames : Kind → List Char → Option NumeralFault → Prop
  | number, cs, cause => ∃ fault, cause = some fault ∧ (fault = .tooLarge ↔ Outgrows (2 ^ 64) cs)
  | flag, _, cause => cause = none

structure Entry where
  name : String
  kind : Kind

/-- Numbers and truth values in the order in which they are read. -/
def entries : List Entry :=
  [⟨"FLEET_OFFER_QUEUE_CAPACITY", .number⟩, ⟨"FLEET_OFFER_WAIT_SECS", .number⟩,
    ⟨"FLEET_DECLINE_OFFER_SECS", .number⟩, ⟨"FLEET_AFFINITY_CACHE_SIZE", .number⟩,
    ⟨"FLEET_COMMAND_QUEUE_SIZE", .number⟩, ⟨"FLEET_AGENT_TIMEOUT_SECS", .number⟩,
    ⟨"FLEET_MULTI_THREADED", .flag⟩, ⟨"FLEET_ON_DEMAND_REGISTRATION", .flag⟩]

namespace Entry

/-- A text is found for the setting that is not blank and means nothing. -/
def Offends (env : Environment) (entry : Entry) : Prop :=
  ∃ raw cs, env entry.name = some raw ∧ Wraps raw cs ∧ cs ≠ [] ∧ ¬ entry.kind.Admits cs

/-- The error names the setting, with its text as it was found. -/
structure Tells (env : Environment) (entry : Entry) (e : ConfigError) : Prop where
  setting : e.setting = entry.name
  raw : env entry.name = some e.raw
  cause : ∃ cs, Wraps e.raw cs ∧ entry.kind.Blames cs e.cause
  message : e.message = s!"invalid value for {entry.name}: {quoted e.raw}"

end Entry

theorem Kind.exists_blames (kind : Kind) (cs : List Char) : ∃ cause, kind.Blames cs cause := by
  cases kind with
  | number =>
      by_cases large : Outgrows (2 ^ 64) cs
      · exact ⟨some .tooLarge, .tooLarge, rfl, iff_of_true rfl large⟩
      · exact ⟨some .invalidDigit, .invalidDigit, rfl, iff_of_false nofun large⟩
  | flag => exact ⟨none, rfl⟩

/-! ## One setting -/

section Reading

variable {α ε ε' : Type}

theorem mapError_eq_ok_iff {f : ε → ε'} {x : Except ε α} {value : α} :
    x.mapError f = .ok value ↔ x = .ok value := by
  cases x <;> simp [Except.mapError]

theorem mapError_eq_error_iff {f : ε → ε'} {x : Except ε α} {e : ε'} :
    x.mapError f = .error e ↔ ∃ cause, x = .error cause ∧ f cause = e := by
  cases x <;> simp [Except.mapError]

variable {parse : List Char → Except (Option NumeralFault) α}

/-- Reads a setting of any kind. -/
def reading (parse : List Char → Except (Option NumeralFault) α) (env : Environment)
    (name : String) (default : α) : Except ConfigError α :=
  match env name with
  | none => .ok default
  | some raw =>
    if trimChars raw.toList = [] then .ok default
    else (parse (trimChars raw.toList)).mapError fun cause => ⟨name, raw, cause⟩

variable {env : Environment} {name : String} {default value : α} {e : ConfigError}

theorem reading_of_absent (absent : env name = none) :
    reading parse env name default = .ok default := by
  rw [reading, absent]

theorem reading_of_found {raw : String} (found : env name = some raw) :
    reading parse env name default =
      if trimChars raw.toList = [] then .ok default
      else (parse (trimChars raw.toList)).mapError fun cause => ⟨name, raw, cause⟩ := by
  rw [reading, found]

/-- A setting takes the value that is read. -/
theorem reading_eq_ok_iff : reading parse env name default = .ok value ↔
    Takes (fun cs value => parse cs = .ok value) default (env name) value := by
  cases found : env name with
  | none =>
      rw [reading_of_absent found, Except.ok.injEq]
      constructor
      · rintro rfl
        exact .absent
      · rintro ⟨⟩
        rfl
  | some raw =>
      rw [reading_of_found found]
      split
      · next nothing =>
          rw [Except.ok.injEq]
          constructor
          · rintro rfl
            exact .blank (wraps_iff.2 nothing)
          · rintro (_ | _ | ⟨wraps, something, -⟩)
            · rfl
            · exact absurd (wraps_iff.1 wraps ▸ nothing) something
      · next something =>
          rw [mapError_eq_ok_iff]
          constructor
          · exact fun h => .given (wraps_iff.2 rfl) something h
          · rintro (_ | nothing | ⟨wraps, -, h⟩)
            · exact absurd (wraps_iff.1 nothing) something
            · rwa [wraps_iff.1 wraps]

/-- What is told of a setting that cannot be read. -/
theorem reading_eq_error_iff {kind : Kind} (parses : ∀ {cs cause},
      parse cs = .error cause ↔ ¬ kind.Admits cs ∧ kind.Blames cs cause) :
    reading parse env name default = .error e ↔
      Entry.Offends env ⟨name, kind⟩ ∧ Entry.Tells env ⟨name, kind⟩ e := by
  constructor
  · intro h
    cases found : env name with
    | none =>
        rw [reading_of_absent found] at h
        cases h
    | some raw =>
        rw [reading_of_found found] at h
        split at h
        · cases h
        · next something =>
            obtain ⟨cause, failed, rfl⟩ := mapError_eq_error_iff.1 h
            obtain ⟨bad, blamed⟩ := parses.1 failed
            have wraps : Wraps raw (trimChars raw.toList) := wraps_iff.2 rfl
            exact ⟨⟨raw, _, found, wraps, something, bad⟩, rfl, found, ⟨_, wraps, blamed⟩, rfl⟩
  · rintro ⟨⟨raw, cs, found, wraps, something, bad⟩, setting, same, ⟨cs', wraps', blamed⟩, -⟩
    obtain ⟨setting', raw', cause⟩ := e
    obtain rfl : raw = raw' := Option.some.inj (found.symm.trans same)
    obtain rfl := wraps_iff.1 wraps
    obtain rfl := wraps_iff.1 wraps'
    subst setting
    rw [reading_of_found found, if_neg something]
    exact mapError_eq_error_iff.2 ⟨cause, parses.2 ⟨bad, blamed⟩, rfl⟩

end Reading

def parseNumber (cs : List Char) : Except (Option NumeralFault) Nat :=
  (readNumeral numberBound cs).mapError some

def parseFlag (cs : List Char) : Except (Option NumeralFault) Bool :=
  if String.ofList (cs.map Char.toLower) ∈ words true then .ok true
  else if String.ofList (cs.map Char.toLower) ∈ words false then .ok false
  else .error none

variable {env : Environment} {name : String} {e : ConfigError} {cs : List Char}

theorem number_eq_reading (env : Environment) (name : String) (default : Nat) :
    number env name default = reading parseNumber env name default := by
  cases found : env name with
  | none => rw [number, found, reading_of_absent found]
  | some raw =>
      rw [reading_of_found found, parseNumber]
      simp only [number, found, isBlankText_iff]
      congr 1
      cases readNumeral numberBound (trimChars raw.toList) <;> rfl

theorem flag_eq_reading (env : Environment) (name : String) (default : Bool) :
    flag env name default = reading parseFlag env name default := by
  cases found : env name with
  | none => rw [flag, found, reading_of_absent found]
  | some raw =>
      rw [reading_of_found found, parseFlag, apply_ite (Except.mapError _),
        apply_ite (Except.mapError _)]
      simp only [flag, found, String.ofList_eq_empty_iff, List.map_eq_nil_iff]
      rfl

theorem parseNumber_eq_ok_iff {n : Nat} : parseNumber cs = .ok n ↔ IsNumber cs n := by
  have read : readNumeral numberBound cs = .ok n ↔ IsNumber cs n :=
    readNumeral_eq_ok_iff (by decide)
  rw [← read, parseNumber]
  cases readNumeral numberBound cs <;> simp [Except.mapError]

theorem parseNumber_eq_error_iff {cause : Option NumeralFault} :
    parseNumber cs = .error cause ↔ ¬ Kind.number.Admits cs ∧ Kind.number.Blames cs cause := by
  have read (fault : NumeralFault) : readNumeral numberBound cs = .error fault ↔
      ¬ Kind.number.Admits cs ∧ (fault = .tooLarge ↔ Outgrows (2 ^ 64) cs) :=
    readNumeral_eq_error_iff (by decide)
  have told : parseNumber cs = .error cause ↔
      ∃ fault, cause = some fault ∧ readNumeral numberBound cs = .error fault := by
    rw [parseNumber]
    cases readNumeral numberBound cs <;> simp [Except.mapError, eq_comm]
  simp only [told, read, Kind.Blames]
  constructor
  · rintro ⟨fault, same, bad, blamed⟩
    exact ⟨bad, fault, same, blamed⟩
  · rintro ⟨bad, fault, same, blamed⟩
    exact ⟨fault, same, bad, blamed⟩

theorem IsFlag.unique {b b' : Bool} (h : IsFlag cs b) (h' : IsFlag cs b') : b = b' := by
  have apart : ∀ word ∈ words true, word ∉ words false := by decide
  cases b <;> cases b'
  · rfl
  · exact absurd h (apart _ h')
  · exact absurd h' (apart _ h)
  · rfl

theorem parseFlag_eq_ok_iff {b : Bool} : parseFlag cs = .ok b ↔ IsFlag cs b := by
  rw [parseFlag]
  split
  · next yes =>
      rw [Except.ok.injEq]
      refine ⟨?_, fun h => IsFlag.unique yes h⟩
      rintro rfl
      exact yes
  · next notYes =>
    split
    · next no =>
        rw [Except.ok.injEq]
        refine ⟨?_, fun h => IsFlag.unique no h⟩
        rintro rfl
        exact no
    · next notNo =>
        refine iff_of_false nofun ?_
        cases b
        · exact notNo
        · exact notYes

theorem parseFlag_eq_error_iff {cause : Option NumeralFault} :
    parseFlag cs = .error cause ↔ ¬ Kind.flag.Admits cs ∧ Kind.flag.Blames cs cause := by
  simp only [Kind.Admits, Kind.Blames, ← parseFlag_eq_ok_iff]
  rw [parseFlag]
  split
  · exact iff_of_false nofun fun h => h.1 ⟨true, rfl⟩
  split
  · exact iff_of_false nofun fun h => h.1 ⟨false, rfl⟩
  · rw [Except.error.injEq, and_iff_right (by simp), eq_comm]

theorem number_eq_ok_iff {default n : Nat} :
    number env name default = .ok n ↔ Takes IsNumber default (env name) n := by
  simp only [number_eq_reading, reading_eq_ok_iff, parseNumber_eq_ok_iff]

theorem flag_eq_ok_iff {default b : Bool} :
    flag env name default = .ok b ↔ Takes IsFlag default (env name) b := by
  simp only [flag_eq_reading, reading_eq_ok_iff, parseFlag_eq_ok_iff]

/-! ## All settings -/

section Refusal

variable {α β ε : Type}

def refusal? : Except ε α → Option ε
  | .error e => some e
  | .ok _ => none

theorem refusal?_eq_some_iff {x : Except ε α} {e : ε} : refusal? x = some e ↔ x = .error e := by
  cases x <;> simp [refusal?]

/-- The first error counts, where what follows fails alike whatever was read before. -/
theorem refusal?_bind {x : Except ε α} {f : α → Except ε β} {r : Option ε}
    (h : ∀ a, refusal? (f a) = r) : refusal? (x >>= f) = (refusal? x).or r := by
  cases x with
  | error e => rfl
  | ok a => exact h a

theorem bind_eq_ok_iff {x : Except ε α} {f : α → Except ε β} {b : β} :
    x >>= f = .ok b ↔ ∃ a, x = .ok a ∧ f a = .ok b := by
  cases x with
  | error e => exact iff_of_false nofun nofun
  | ok a => exact ⟨fun h => ⟨a, rfl, h⟩, fun ⟨_, same, h⟩ => Except.ok.inj same ▸ h⟩

end Refusal

namespace Entry

/-- The error of the setting, if it is refused. -/
def refusal? (env : Environment) (entry : Entry) : Option ConfigError :=
  match entry.kind with
  | .number => Config.refusal? (number env entry.name 0)
  | .flag => Config.refusal? (flag env entry.name false)

theorem refusal?_eq_some_iff {entry : Entry} :
    entry.refusal? env = some e ↔ entry.Offends env ∧ entry.Tells env e := by
  obtain ⟨name, _ | _⟩ := entry
  · rw [refusal?, Config.refusal?_eq_some_iff, number_eq_reading,
      reading_eq_error_iff parseNumber_eq_error_iff]
  · rw [refusal?, Config.refusal?_eq_some_iff, flag_eq_reading,
      reading_eq_error_iff parseFlag_eq_error_iff]

theorem isSome_refusal?_iff {entry : Entry} :
    (entry.refusal? env).isSome = true ↔ entry.Offends env := by
  rw [Option.isSome_iff_exists]
  constructor
  · rintro ⟨e, refused⟩
    exact (refusal?_eq_some_iff.1 refused).1
  · intro offends
    obtain ⟨raw, cs, found, wraps, -⟩ := id offends
    obtain ⟨cause, blamed⟩ := entry.kind.exists_blames cs
    exact ⟨⟨entry.name, raw, cause⟩,
      refusal?_eq_some_iff.2 ⟨offends, rfl, found, ⟨cs, wraps, blamed⟩, rfl⟩⟩

end Entry

theorem findSome?_cons_eq_or {γ δ : Type} (f : γ → Option δ) (a : γ) (l : List γ) :
    (a :: l).findSome? f = (f a).or (l.findSome? f) := by
  rw [List.findSome?_cons]
  cases f a <;> rfl

/-- What is read first is told first; its default makes no difference. -/
theorem refusal?_reading_bind {α β : Type} {parse : List Char → Except (Option NumeralFault) α}
    {kind : Kind} {default : α} {f : α → Except ConfigError β} {rest : List Entry}
    (parses : ∀ {cs cause}, parse cs = .error cause ↔ ¬ kind.Admits cs ∧ kind.Blames cs cause)
    (h : ∀ a, refusal? (f a) = rest.findSome? (Entry.refusal? env)) :
    refusal? (reading parse env name default >>= f) =
      (⟨name, kind⟩ :: rest).findSome? (Entry.refusal? env) := by
  have first : refusal? (reading parse env name default) = Entry.refusal? env ⟨name, kind⟩ := by
    ext e
    rw [refusal?_eq_some_iff, reading_eq_error_iff parses, Entry.refusal?_eq_some_iff]
  rw [refusal?_bind h, first, findSome?_cons_eq_or]

/-- Loading fails with the first error in the order of reading. -/
theorem refusal?_load (env : Environment) :
    refusal? (load env) = entries.findSome? (Entry.refusal? env) := by
  simp only [load, number_eq_reading, flag_eq_reading]
  iterate 6 refine refusal?_reading_bind parseNumber_eq_error_iff fun _ => ?_
  iterate 2 refine refusal?_reading_bind parseFlag_eq_error_iff fun _ => ?_
  rfl

theorem load_eq_error_iff : load env = .error e ↔
    ∃ before entry after, entries = before ++ entry :: after ∧
      (∀ earlier ∈ before, ¬ earlier.Offends env) ∧ entry.Offends env ∧ entry.Tells env e := by
  have passed (entry : Entry) : entry.refusal? env = none ↔ ¬ entry.Offends env := by
    rw [← Entry.isSome_refusal?_iff, Option.not_isSome_iff_eq_none]
  rw [← refusal?_eq_some_iff, refusal?_load, List.findSome?_eq_some_iff]
  simp only [passed, Entry.refusal?_eq_some_iff]
  constructor
  · rintro ⟨before, entry, after, order, refused, earlier⟩
    exact ⟨before, entry, after, order, earlier, refused⟩
  · rintro ⟨before, entry, after, order, earlier, refused⟩
    exact ⟨before, entry, after, order, refused, earlier⟩

theorem load_fails_iff : (∃ e, load env = .error e) ↔ ∃ entry ∈ entries, entry.Offends env := by
  simp only [← refusal?_eq_some_iff, refusal?_load, ← Option.isSome_iff_exists,
    List.findSome?_isSome_iff, Entry.isSome_refusal?_iff]

/-- Loading succeeds with the answers of the environment. -/
theorem load_eq_ok_iff {config : Config} :
    load env = .ok config ↔
      ∃ answers : Answers, answers.Given env ∧ answers.config env = config := by
  simp only [load, bind_eq_ok_iff, number_eq_ok_iff, flag_eq_ok_iff,
    Duration.seconds_ofSeconds]
  constructor
  · rintro ⟨capacity, takesCapacity, offerWait, takesOfferWait, declineFor, takesDeclineFor,
      affinitySize, takesAffinitySize, queueSize, takesQueueSize, agentTimeout, takesAgentTimeout,
      multiThreaded, takesMultiThreaded, onDemand, takesOnDemand, built⟩
    refine ⟨⟨capacity, offerWait, declineFor, affinitySize, queueSize, agentTimeout, multiThreaded,
      onDemand⟩, ⟨takesCapacity, takesOfferWait, takesDeclineFor, takesAffinitySize, takesQueueSize,
        takesAgentTimeout, takesMultiThreaded, takesOnDemand⟩, ?_⟩
    exact Except.ok.inj built
  · rintro ⟨answers, given, rfl⟩
    exact ⟨_, given.capacity, _, given.offerWait, _, given.declineFor, _, given.affinitySize, _,
      given.queueSize, _, given.agentTimeout, _, given.multiThreaded, _, given.onDemand, rfl⟩

section Update

variable {other : String} {found : Option String}

theorem reading_update {α : Type} {parse : List Char → Except (Option NumeralFault) α} {default : α}
    (apart : name ≠ other) : reading parse (Function.update env other found) name default =
      reading parse env name default := by
  rw [reading, reading, Function.update_of_ne apart]

theorem text_update {default : String} (apart : name ≠ other) :
    text (Function.update env other found) name default = text env name default := by
  rw [text, text, Function.update_of_ne apart]

end Update

/-- Other constraints change nothing but the constraints. -/
theorem load_update (env : Environment) (found : Option String) :
    load (Function.update env "FLEET_SLAVE_ATTRIBUTES" found) =
        (load env).map fun config =>
          { config with
            scheduler := { config.scheduler with labels := .read (found.getD "") } } := by
  have taken : text (Function.update env "FLEET_SLAVE_ATTRIBUTES" found)
      "FLEET_SLAVE_ATTRIBUTES" "" = found.getD "" := by
    rw [text, Function.update_self]
  change _ = _ <$> load env
  simp (disch := decide) only [load, number_eq_reading, flag_eq_reading, reading_update,
    text_update, taken, map_bind]
  rfl

/-- Loading succeeds exactly with the answers that the environment gives to the numbers and truth
values, where what is absent or blank has its default, and with room for a command in the queue. It
fails exactly if a number or a truth value offends, and tells the first one of them in the order of
reading, with its text as it was found. Whatever is found for the constraints, loading comes out the
same but for the constraints themselves. -/
theorem loading_decides (env : Environment) :
    (∀ config, load env = .ok config ↔
        ∃ answers : Answers, answers.Given env ∧ answers.config env = config) ∧
      (∀ e, load env = .error e ↔ ∃ before entry after, entries = before ++ entry :: after ∧
        (∀ earlier ∈ before, ¬ earlier.Offends env) ∧ entry.Offends env ∧ entry.Tells env e) ∧
      ((∃ e, load env = .error e) ↔ ∃ entry ∈ entries, entry.Offends env) ∧
      ∀ found : Option String, load (Function.update env "FLEET_SLAVE_ATTRIBUTES" found) =
        (load env).map fun config =>
          { config with
            scheduler := { config.scheduler with labels := .read (found.getD "") } } :=
  ⟨fun _ => load_eq_ok_iff, fun _ => load_eq_error_iff, load_fails_iff, load_update env⟩

end Config

end OfferDispatch
