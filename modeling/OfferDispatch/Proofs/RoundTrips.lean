import OfferDispatch.Proofs.Course
import OfferDispatch.Proofs.Documents

/-!
# Offers, workers, tasks and statuses as documents

What the host and the cluster tell each other is read back from its documents as it was, provided
that its names are valid, its amounts finite and its instants such that there can be. A document
that was made elsewhere gives a value of just this kind, or none. So a value that has come in can be
passed on, and it will be the same value at its end.
-/

namespace OfferDispatch

/-! ## Values that have a document -/

/-- An amount that is not one, or a finite one. -/
def ResourceValue.IsFinite : ResourceValue Float → Prop
  | .scalar amount => OfferDispatch.IsFinite amount
  | .ranges _ | .set _ => True

structure Maintenance.IsProper (m : Maintenance) : Prop where
  start : m.start.IsProper
  stop : ∀ stop ∈ m.stop, stop.IsProper

structure Offer.IsProper (o : Offer Float) : Prop where
  id : o.id.IsValid
  agent : o.agent.IsValid
  amounts : ∀ r ∈ o.resources, r.value.IsFinite
  maintenance : ∀ m ∈ o.maintenance, m.IsProper

structure WorkerSpec.IsProper (w : WorkerSpec Float) : Prop where
  name : w.name.IsValid
  cpus : IsFinite w.cpus
  disk : IsFinite w.disk

structure Task.IsProper (t : Task Float) : Prop where
  id : t.id.IsValid
  agent : t.agent.IsValid
  amounts : ∀ r ∈ t.resources, r.value.IsFinite

structure TaskStatus.IsProper (s : TaskStatus) : Prop where
  task : s.task.IsValid

namespace Document

open Faithful

/-! ## Resources -/

theorem isFinite_of_resourceValue? {kind : String} {content : Json} {v : ResourceValue Float}
    (proper : content.IsProper) (read : resourceValue? kind content = some v) : v.IsFinite := by
  rw [resourceValue?] at read
  split at read
  · obtain ⟨amount, readAmount, same⟩ := Option.map_eq_some_iff.1 read
    have finite : IsFinite amount := isProper_of_decode? proper readAmount
    exact same ▸ finite
  split at read
  · obtain ⟨ranges, -, same⟩ := Option.map_eq_some_iff.1 read
    exact same ▸ trivial
  split at read
  · obtain ⟨items, -, same⟩ := Option.map_eq_some_iff.1 read
    exact same ▸ trivial
  · cases read

instance : Faithful (ResourceValue Float) ResourceValue.IsFinite where
  decode?_encode {v} h := by
    cases v with
    | scalar amount =>
        have finite : IsFinite amount := h
        refine (bind_parts? rfl (by simp)).trans ?_
        change resourceValue? "scalar" (encode amount) = _
        rw [resourceValue?, if_pos rfl, decode?_encode finite, Option.map_some]
    | ranges ranges =>
        refine (bind_parts? rfl (by simp)).trans ?_
        change resourceValue? "ranges" (encode ranges) = _
        rw [resourceValue?, if_neg (by simp), if_pos rfl, decode?_encode (by simp),
          Option.map_some]
    | set items =>
        refine (bind_parts? rfl (by simp)).trans ?_
        change resourceValue? "set" (encode items) = _
        rw [resourceValue?, if_neg (by simp), if_neg (by simp), if_pos rfl,
          decode?_encode (by simp), Option.map_some]
  isProper_of_decode? {d v} proper read := by
    obtain ⟨items, parts, read⟩ := Option.bind_eq_some_iff.1 read
    have fit := isProper_of_parts? proper parts
    split at read
    · next kind content =>
        obtain ⟨name, -, read⟩ := Option.bind_eq_some_iff.1 read
        exact isFinite_of_resourceValue? (fit content (by simp)) read
    · cases read

instance : Faithful (Resource Float) fun r => r.value.IsFinite where
  decode?_encode {r} h :=
    (bind_parts? rfl (by simp)).trans <| (bind_decode? trivial).trans <|
      (bind_decode? trivial).trans <| bind_decode? h
  isProper_of_decode? {d r} proper read := by
    obtain ⟨items, parts, read⟩ := Option.bind_eq_some_iff.1 read
    have fit := isProper_of_parts? proper parts
    split at read
    · simp only [List.forall_mem_cons] at fit
      obtain ⟨fitName, fitRole, fitValue, -⟩ := fit
      obtain ⟨_, -, read⟩ := exists_of_bind_decode? fitName read
      obtain ⟨_, -, read⟩ := exists_of_bind_decode? fitRole read
      obtain ⟨_, finite, read⟩ := exists_of_bind_decode? fitValue read
      cases read
      exact finite
    · cases read

/-! ## What is told -/

instance : Faithful Maintenance Maintenance.IsProper where
  decode?_encode {m} h :=
    (bind_parts? rfl (by simp)).trans <| (bind_decode? h.start).trans <| bind_decode? h.stop
  isProper_of_decode? {d m} proper read := by
    obtain ⟨items, parts, read⟩ := Option.bind_eq_some_iff.1 read
    have fit := isProper_of_parts? proper parts
    split at read
    · simp only [List.forall_mem_cons] at fit
      obtain ⟨fitStart, fitStop, -⟩ := fit
      obtain ⟨_, start, read⟩ := exists_of_bind_decode? fitStart read
      obtain ⟨_, stop, read⟩ := exists_of_bind_decode? fitStop read
      cases read
      exact ⟨start, stop⟩
    · cases read

instance : RefusesNull Maintenance := ⟨rfl⟩

instance : Faithful (Offer Float) Offer.IsProper where
  decode?_encode {o} h :=
    (bind_parts? rfl (by simp)).trans <| (bind_decode? h.id).trans <|
      (bind_decode? h.agent).trans <| (bind_decode? trivial).trans <|
      (bind_decode? h.amounts).trans <| (bind_decode? (by simp)).trans <|
      bind_decode? h.maintenance
  isProper_of_decode? {d o} proper read := by
    obtain ⟨items, parts, read⟩ := Option.bind_eq_some_iff.1 read
    have fit := isProper_of_parts? proper parts
    split at read
    · simp only [List.forall_mem_cons] at fit
      obtain ⟨fitId, fitAgent, fitHost, fitResources, fitAttributes, fitMaintenance, -⟩ := fit
      obtain ⟨_, id, read⟩ := exists_of_bind_decode? fitId read
      obtain ⟨_, agent, read⟩ := exists_of_bind_decode? fitAgent read
      obtain ⟨_, -, read⟩ := exists_of_bind_decode? fitHost read
      obtain ⟨_, amounts, read⟩ := exists_of_bind_decode? fitResources read
      obtain ⟨_, -, read⟩ := exists_of_bind_decode? fitAttributes read
      obtain ⟨_, maintenance, read⟩ := exists_of_bind_decode? fitMaintenance read
      cases read
      exact ⟨id, agent, amounts, maintenance⟩
    · cases read

instance : Faithful (Task Float) Task.IsProper where
  decode?_encode {t} h :=
    (bind_parts? rfl (by simp)).trans <| (bind_decode? h.id).trans <|
      (bind_decode? trivial).trans <| (bind_decode? h.agent).trans <|
      (bind_decode? h.amounts).trans <| (bind_decode? trivial).trans <| bind_decode? (by simp)
  isProper_of_decode? {d t} proper read := by
    obtain ⟨items, parts, read⟩ := Option.bind_eq_some_iff.1 read
    have fit := isProper_of_parts? proper parts
    split at read
    · simp only [List.forall_mem_cons] at fit
      obtain ⟨fitId, fitTitle, fitAgent, fitResources, fitCommand, fitContainer, -⟩ := fit
      obtain ⟨_, id, read⟩ := exists_of_bind_decode? fitId read
      obtain ⟨_, -, read⟩ := exists_of_bind_decode? fitTitle read
      obtain ⟨_, agent, read⟩ := exists_of_bind_decode? fitAgent read
      obtain ⟨_, amounts, read⟩ := exists_of_bind_decode? fitResources read
      obtain ⟨_, -, read⟩ := exists_of_bind_decode? fitCommand read
      obtain ⟨_, -, read⟩ := exists_of_bind_decode? fitContainer read
      cases read
      exact ⟨id, agent, amounts⟩
    · cases read

instance : Faithful TaskStatus TaskStatus.IsProper where
  decode?_encode {s} h :=
    (bind_parts? rfl (by simp)).trans <| (bind_decode? h.task).trans <|
      (bind_decode? trivial).trans <| bind_decode? (by simp)
  isProper_of_decode? {d s} proper read := by
    obtain ⟨items, parts, read⟩ := Option.bind_eq_some_iff.1 read
    have fit := isProper_of_parts? proper parts
    split at read
    · simp only [List.forall_mem_cons] at fit
      obtain ⟨fitTask, fitState, fitMessage, -⟩ := fit
      obtain ⟨_, task, read⟩ := exists_of_bind_decode? fitTask read
      obtain ⟨_, -, read⟩ := exists_of_bind_decode? fitState read
      obtain ⟨_, -, read⟩ := exists_of_bind_decode? fitMessage read
      cases read
      exact ⟨task⟩
    · cases read

instance : Faithful (WorkerSpec Float) WorkerSpec.IsProper where
  decode?_encode {w} h :=
    (bind_parts? rfl (by simp)).trans <| (bind_decode? h.name).trans <|
      (bind_decode? trivial).trans <| (bind_decode? h.cpus).trans <|
      (bind_decode? trivial).trans <| (bind_decode? h.disk).trans <|
      (bind_decode? trivial).trans <| (bind_decode? trivial).trans <|
      (bind_decode? trivial).trans <| (bind_decode? (by simp)).trans <|
      (bind_decode? trivial).trans <| (bind_decode? (by simp)).trans <| bind_decode? (by simp)
  isProper_of_decode? {d w} proper read := by
    obtain ⟨items, parts, read⟩ := Option.bind_eq_some_iff.1 read
    have fit := isProper_of_parts? proper parts
    split at read
    · simp only [List.forall_mem_cons] at fit
      obtain ⟨fitName, fitLabel, fitCpus, fitMemory, fitDisk, -⟩ := fit
      obtain ⟨_, name, read⟩ := exists_of_bind_decode? fitName read
      obtain ⟨_, -, read⟩ := exists_of_bind_decode? fitLabel read
      obtain ⟨_, cpus, read⟩ := exists_of_bind_decode? fitCpus read
      obtain ⟨_, -, read⟩ := exists_of_bind_decode? fitMemory read
      obtain ⟨_, disk, read⟩ := exists_of_bind_decode? fitDisk read
      -- The other seven parts can be anything.
      iterate 7 obtain ⟨_, -, read⟩ := Option.bind_eq_some_iff.1 read
      cases read
      exact ⟨name, cpus, disk⟩
    · cases read

/-! ## Round trips -/

/-- Documents lose nothing. Offers, workers, tasks and statuses with valid names and finite amounts
are read back from their documents; and whatever is read from a document has names that can be
parsed, and is read back from its own document.

A document is a JSON value here, with its numbers as they are, and not a text: what becomes of an
amount that is written out in digits and read again is not part of this. -/
theorem documents_round_trip :
    ((∀ o : Offer Float, o.IsProper → decode? (encode o) = some o) ∧
      (∀ w : WorkerSpec Float, w.IsProper → decode? (encode w) = some w) ∧
      (∀ t : Task Float, t.IsProper → decode? (encode t) = some t) ∧
      ∀ s : TaskStatus, s.IsProper → decode? (encode s) = some s) ∧
    ∀ d : Json, d.IsProper →
      (∀ o : Offer Float, decode? d = some o →
        Name.parse o.id.text = .ok o.id ∧ Name.parse o.agent.text = .ok o.agent ∧
          decode? (encode o) = some o) ∧
      (∀ w : WorkerSpec Float, decode? d = some w →
        Name.parse w.name.text = .ok w.name ∧ decode? (encode w) = some w) ∧
      (∀ t : Task Float, decode? d = some t →
        Name.parse t.id.text = .ok t.id ∧ Name.parse t.agent.text = .ok t.agent ∧
          decode? (encode t) = some t) ∧
      ∀ s : TaskStatus, decode? d = some s →
        Name.parse s.task.text = .ok s.task ∧ decode? (encode s) = some s := by
  refine ⟨⟨fun _ => decode?_encode, fun _ => decode?_encode, fun _ => decode?_encode,
    fun _ => decode?_encode⟩, fun d proper => ⟨fun o read => ?_, fun w read => ?_, fun t read => ?_,
    fun s read => ?_⟩⟩
  · have fit : o.IsProper := isProper_of_decode? proper read
    exact ⟨Name.parse_text_iff.2 fit.id, Name.parse_text_iff.2 fit.agent, decode?_encode fit⟩
  · have fit : w.IsProper := isProper_of_decode? proper read
    exact ⟨Name.parse_text_iff.2 fit.name, decode?_encode fit⟩
  · have fit : t.IsProper := isProper_of_decode? proper read
    exact ⟨Name.parse_text_iff.2 fit.id, Name.parse_text_iff.2 fit.agent, decode?_encode fit⟩
  · have fit : s.IsProper := isProper_of_decode? proper read
    exact ⟨Name.parse_text_iff.2 fit.task, decode?_encode fit⟩

end Document

namespace Plain

open Document

/-- An offer of an agent that goes down on a leap second. -/
def leavingOffer : Offer Float :=
  { offer "offer-1" with maintenance := some ⟨⟨1483228799, 1500000000⟩, none⟩ }

def idleTask : Task Float := ⟨⟨"worker"⟩, "worker", ⟨"agent"⟩, [], ⟨"run", true, [], []⟩, none⟩

def runningStatus : TaskStatus := ⟨⟨"worker"⟩, .running, none⟩

theorem isProper_leavingOffer : leavingOffer.IsProper where
  id := by decide
  agent := by decide
  amounts := by
    refine List.forall_mem_cons.2 ⟨?_, List.forall_mem_cons.2 ⟨?_, List.forall_mem_nil _⟩⟩ <;> rfl
  maintenance := by
    rintro m ⟨⟩
    exact ⟨⟨by decide, by decide⟩, fun _ absent => nomatch absent⟩

theorem isProper_worker : (worker "worker").IsProper := ⟨by decide, by rfl, by rfl⟩

theorem isProper_idleTask : idleTask.IsProper := ⟨by decide, by decide, List.forall_mem_nil _⟩

theorem isProper_runningStatus : runningStatus.IsProper := ⟨by decide⟩

/-- Parts in an array: the amount is a whole number, and there is a blank in the instant. -/
def offerDocument : Json :=
  .arr [.str "offer-1", .str "agent", .str "host",
    .arr [.arr [.str "cpus", .str "*", .arr [.str "scalar", .num (.int 4)]]], .arr [],
    .arr [.str "2016-12-31 23:59:60.5Z", .null]]

/-- The offer of such a document. -/
def countedOffer : Offer Float :=
  { leavingOffer with resources := [⟨"cpus", "*", .scalar (.ofInt 4)⟩] }

theorem isProper_offerDocument : offerDocument.IsProper := by
  have amount : Number.IsProper (.int 4) := ⟨by decide, by decide⟩
  refine .arr ?_
  simp only [List.forall_mem_cons]
  refine ⟨.str _, .str _, .str _, .arr ?_, .arr (List.forall_mem_nil _), .arr ?_,
    List.forall_mem_nil _⟩
  · simp only [List.forall_mem_cons]
    refine ⟨.arr ?_, List.forall_mem_nil _⟩
    simp only [List.forall_mem_cons]
    refine ⟨.str _, .str _, .arr ?_, List.forall_mem_nil _⟩
    simp only [List.forall_mem_cons]
    exact ⟨.str _, .num amount, List.forall_mem_nil _⟩
  · simp only [List.forall_mem_cons]
    exact ⟨.str _, .null, List.forall_mem_nil _⟩

/-- A document with the fields of an object in no order and with one too many. -/
def statusDocument : Json :=
  .obj [("color", .bool true), ("state", .obj [("RUNNING", .null)]), ("task_id", .str "worker")]

theorem isProper_statusDocument : statusDocument.IsProper := by
  refine .obj ?_
  simp only [List.forall_mem_cons]
  refine ⟨.bool _, .obj ?_, .str _, List.forall_mem_nil _⟩
  simp only [List.forall_mem_cons]
  exact ⟨.null, List.forall_mem_nil _⟩

theorem documents_round_trip_plain :
    (leavingOffer.IsProper ∧ decode? (encode leavingOffer) = some leavingOffer) ∧
    ((worker "worker").IsProper ∧ decode? (encode (worker "worker")) = some (worker "worker")) ∧
    (idleTask.IsProper ∧ decode? (encode idleTask) = some idleTask) ∧
    (runningStatus.IsProper ∧ decode? (encode runningStatus) = some runningStatus) ∧
    (offerDocument.IsProper ∧ decode? offerDocument = some countedOffer ∧
      Name.parse countedOffer.id.text = .ok countedOffer.id ∧
      Name.parse countedOffer.agent.text = .ok countedOffer.agent ∧
      decode? (encode countedOffer) = some countedOffer) ∧
    statusDocument.IsProper ∧ decode? statusDocument = some runningStatus ∧
      Name.parse runningStatus.task.text = .ok runningStatus.task := by
  obtain ⟨⟨offers, workers, tasks, statuses⟩, documents⟩ := documents_round_trip
  obtain ⟨readOffers, -, -, -⟩ := documents offerDocument isProper_offerDocument
  obtain ⟨-, -, -, readStatuses⟩ := documents statusDocument isProper_statusDocument
  have offer : decode? offerDocument = some countedOffer := by rfl
  have status : decode? statusDocument = some runningStatus := by rfl
  exact ⟨⟨isProper_leavingOffer, offers _ isProper_leavingOffer⟩,
    ⟨isProper_worker, workers _ isProper_worker⟩, ⟨isProper_idleTask, tasks _ isProper_idleTask⟩,
    ⟨isProper_runningStatus, statuses _ isProper_runningStatus⟩,
    ⟨isProper_offerDocument, offer, readOffers _ offer⟩, isProper_statusDocument, status,
    (readStatuses _ status).1⟩

end Plain

end OfferDispatch
