import OfferDispatch.Proofs.FrontEnds
import OfferDispatch.Proofs.LateNews

/-!
# Announcements

A launch is handled in two steps: its worker is requested, and when the scheduler has replied, it is
published that the worker waits. The request is in the queue already while the reply is on its way,
so somebody else may place it, apply a status of its task or give it up, and what they have to tell
of the worker goes into the same stream.

Commands are handled one at a time, but others may come and act at any point. A pipeline that is
stopped before it has the reply does not publish anything more, and yet the notices still get
through. What is published is noted together with the number of the caller that it goes back to, so
that launches of workers of one name can be told apart.

A launch is announced too late exactly if somebody has told of its worker between the two steps. A
command that is handled with nobody in between is handled in one go.
-/

namespace OfferDispatch

variable {δ κ : Type}

/-! ## Events about a launch -/

namespace StateEvent

/-- Does the event say that a worker waits? -/
def isEnqueued : StateEvent → Bool
  | enqueued _ => true
  | _ => false

/-- Does the event say what has become of a worker? -/
def isNotice : StateEvent → Bool
  | notice .. => true
  | _ => false

end StateEvent

/-- Nothing is said about what has become of a worker until it is said that it waits. -/
def AnnouncedFirst (events : List StateEvent) : Prop :=
  ∀ event ∈ events.takeWhile (!·.isEnqueued), event.isNotice = false

instance (events : List StateEvent) : Decidable (AnnouncedFirst events) :=
  inferInstanceAs (Decidable (∀ _ ∈ _, _))

theorem announcedFirst_append {events more : List StateEvent} :
    AnnouncedFirst (events ++ more) ↔
      AnnouncedFirst events ∧ ((∃ event ∈ events, event.isEnqueued = true) ∨ AnnouncedFirst more) := by
  induction events with
  | nil => simp [AnnouncedFirst]
  | cons event rest ih =>
      by_cases waits : event.isEnqueued = true
      · simp [AnnouncedFirst, waits]
      · simp only [AnnouncedFirst] at ih
        simp [AnnouncedFirst, waits, ih, and_assoc]

/-- The notices to the event stream, each with the number of the launch that it is about. -/
def published (notices : List (Notice (Nat × Listener κ))) : List (Nat × StateEvent) :=
  notices.filterMap fun n => match n.callback with
    | (number, .stream) => some (number, .notice n.kind n.place)
    | (_, .host _) => none

theorem published_append (notices more : List (Notice (Nat × Listener κ))) :
    published (notices ++ more) = published notices ++ published more := List.filterMap_append

theorem map_snd_published (notices : List (Notice (Nat × Listener κ))) :
    (published notices).map Prod.snd = streamed (notices.map (.map Prod.snd)) := by
  induction notices with
  | nil => rfl
  | cons n rest ih =>
      obtain ⟨kind, place, number, _ | _⟩ := n
      · exact congrArg (StateEvent.notice kind place :: ·) ih
      · exact ih

theorem mem_published {notices : List (Notice (Nat × Listener κ))} {number : Nat}
    {event : StateEvent} :
    (number, event) ∈ published notices ↔
      ∃ n ∈ notices, n.callback = (number, .stream) ∧ event = .notice n.kind n.place := by
  rw [published, List.mem_filterMap]
  refine exists_congr fun n => and_congr_right fun _ => ?_
  obtain ⟨kind, place, own, _ | _⟩ := n
  · simp [eq_comm]
  · simp

/-- The events that go back to a caller. -/
def about (number : Nat) (items : List (Nat × StateEvent)) : List StateEvent :=
  (items.filter (·.1 == number)).map Prod.snd

theorem about_append (number : Nat) (items more : List (Nat × StateEvent)) :
    about number (items ++ more) = about number items ++ about number more := by
  rw [about, List.filter_append, List.map_append]
  rfl

theorem mem_about {number : Nat} {items : List (Nat × StateEvent)} {event : StateEvent} :
    event ∈ about number items ↔ (number, event) ∈ items := by
  constructor
  · intro heard
    obtain ⟨⟨own, event⟩, kept, rfl⟩ := List.mem_map.1 heard
    obtain ⟨listed, same⟩ := List.mem_filter.1 kept
    obtain rfl : own = number := beq_iff_eq.1 same
    exact listed
  · intro listed
    exact List.mem_map.2 ⟨(number, event), List.mem_filter.2 ⟨listed, beq_self_eq_true number⟩, rfl⟩

/-- The worker that is asked for or given up. -/
def Operation.worker? : Operation κ → Option TaskId
  | .request spec _ => some spec.name
  | .cancel worker => some worker
  | _ => none

theorem Command.worker?_request (command : Command) (number : Nat) :
    ((command.request : Operation (Listener κ)).map (Prod.mk number)).worker? =
      some command.target := by
  cases command with
  | launch spec => rfl
  | kill worker => rfl

/-- A command is answered with events about its worker. -/
theorem Command.worker_of_mem_answer {command : Command} {reply : Option Reply} {event : StateEvent}
    (member : event ∈ command.answer reply) : event.worker = command.target := by
  unfold answer at member
  split at member
  · obtain rfl := List.mem_singleton.1 member
    rfl
  · obtain rfl := List.mem_singleton.1 member
    rfl
  · cases member
  · obtain rfl := List.mem_singleton.1 member
    rfl

/-- Only a command that is refused is answered with what has become of its worker. -/
theorem Command.refused_of_mem_answer {command : Command} {reply : Option Reply}
    {event : StateEvent} (member : event ∈ command.answer reply) (notice : event.isNotice = true) :
    ∃ e, reply = some (.refused e) := by
  unfold answer at member
  split at member
  · next e => exact ⟨e, rfl⟩
  · obtain rfl := List.mem_singleton.1 member
    cases notice
  · next e => exact ⟨e, rfl⟩
  · obtain rfl := List.mem_singleton.1 member
    cases notice

/-! ## Handling commands among others -/

/-- The reply to a caller that has nothing left to do. -/
def Crowd.returned? (c : Crowd δ κ) (number : Nat) : Option Reply :=
  c.callers[number]?.bind fun caller => if caller.left.isEmpty then caller.reply else none

/-- A crowd in which one after another handles commands, and the events that are published. -/
structure Broadcast (δ κ : Type) where
  crowd : Crowd δ (Listener κ)
  /-- The command that is being handled, and the number of the caller that it was made. -/
  hand : Option (Nat × Command) := none
  /-- The events, the oldest first, each with the number of the caller that it goes back to. -/
  stream : List (Nat × StateEvent) := []

inductive Broadcast.Turn (κ : Type)
  /-- The next command is taken from the queue, if none is being handled. -/
  | take (command : Command)
  /-- Somebody else comes and asks something. -/
  | enter (operation : Operation κ)
  /-- A caller goes on. -/
  | proceed (env : Surroundings) (number : Nat)
  /-- The command that is being handled is answered, if its reply is there. -/
  | publish

namespace Broadcast

/-- The request of a command is brought to the scheduler. -/
def take (b : Broadcast δ κ) (command : Command) : Broadcast δ κ :=
  { b with
    crowd := b.crowd.enter command.request
    hand := some (b.crowd.callers.length, command) }

def enter (b : Broadcast δ κ) (operation : Operation κ) : Broadcast δ κ :=
  { b with crowd := b.crowd.enter (operation.map .host) }

def settle (b : Broadcast δ κ) (number : Nat) (command : Command) (reply : Reply) :
    Broadcast δ κ :=
  { b with
    hand := none
    stream := b.stream ++ (command.answer (some reply)).map (Prod.mk number) }

/-- The command that is being handled is answered, if its reply is there. -/
def publish (b : Broadcast δ κ) : Broadcast δ κ :=
  match b.hand with
  | some (number, command) =>
    match b.crowd.returned? number with
    | some reply => b.settle number command reply
    | none => b
  | none => b

/-- What the handler of events hears about what a caller has asked. -/
def heard (b : Broadcast δ κ) (number : Nat) : List StateEvent := about number b.stream

variable [ClusterDriver δ]

/-- A caller goes on, and what it tells the event stream is published. -/
def proceed (b : Broadcast δ κ) (env : Surroundings) (number : Nat) : Broadcast δ κ :=
  { b with
    crowd := b.crowd.proceed env number
    stream := b.stream ++ published (tells (b.crowd.next? number).toList) }

def turn (b : Broadcast δ κ) : Turn κ → Broadcast δ κ
  | .take command => if b.hand.isNone then b.take command else b
  | .enter operation => b.enter operation
  | .proceed env number => b.proceed env number
  | .publish => b.publish

def after (s : Scheduler δ (Nat × Listener κ)) (turns : List (Turn κ)) : Broadcast δ κ :=
  turns.foldl turn { crowd := { scheduler := s } }

@[simp] theorem after_concat (s : Scheduler δ (Nat × Listener κ)) (turns : List (Turn κ))
    (t : Turn κ) : after s (turns ++ [t]) = (after s turns).turn t := by
  simp [after]

/-- In this turn somebody else tells the event stream what has become of the worker of a launch, of
which the request has left the queue, while the launch is still being handled. -/
def Overtakes (b : Broadcast δ κ) (number : Nat) (t : Turn κ) : Prop :=
  ∃ env teller n spec, t = .proceed env teller ∧ teller ≠ number ∧
    b.crowd.next? teller = some (.tell n) ∧ n.callback = (number, .stream) ∧
    b.hand = some (number, .launch spec) ∧
    ∀ r ∈ b.crowd.scheduler.requests.waiting, r.callback.1 ≠ number

/-- What each step of handling keeps, a turn keeps. -/
theorem turn_preserves {P : Broadcast δ κ → Prop} {b : Broadcast δ κ} (h : P b) (t : Turn κ)
    (took : ∀ command, b.hand = none → P (b.take command))
    (entered : ∀ operation, P (b.enter operation))
    (proceeded : ∀ env number, t = .proceed env number → P (b.proceed env number))
    (settled : ∀ number command reply, b.hand = some (number, command) →
      b.crowd.returned? number = some reply → P (b.settle number command reply)) :
    P (b.turn t) := by
  cases t with
  | take command =>
      rw [turn]
      split
      · next free => exact took command (Option.isNone_iff_eq_none.1 free)
      · exact h
  | enter operation => exact entered operation
  | proceed env number => exact proceeded env number rfl
  | publish =>
      rw [turn, publish]
      split
      · next number command held =>
          split
          · next reply returned => exact settled number command reply held returned
          · exact h
      · exact h

/-- What every turn of a crowd keeps, a turn of a broadcast keeps of its crowd. -/
theorem crowd_turn_preserves {P : Crowd δ (Listener κ) → Prop} {b : Broadcast δ κ}
    (h : P b.crowd) (turned : ∀ u, P (b.crowd.turn u)) (t : Turn κ) : P (b.turn t).crowd := by
  refine turn_preserves (P := fun c => P c.crowd) h t ?_ ?_ ?_ ?_
  · intro command _
    exact turned (.enter command.request)
  · intro operation
    exact turned (.enter (operation.map .host))
  · intro env number _
    exact turned (.proceed env number)
  · intro number command reply _ _
    exact h

end Broadcast

/-! ## A command that is handled alone -/

/-- What is told next is told when the caller goes on. -/
theorem Crowd.told_proceed [ClusterDriver δ] (env : Surroundings) (number : Nat) (c : Crowd δ κ) :
    (c.proceed env number).told = c.told ++ tells (c.next? number).toList := by
  rw [proceed, next?]
  split
  · next operation action rest reply found =>
      rw [found]
      rfl
  · next none =>
      cases found : c.callers[number]? with
      | none => exact (List.append_nil _).symm
      | some caller =>
          obtain ⟨operation, _ | ⟨action, rest⟩, reply⟩ := caller
          · exact (List.append_nil _).symm
          · exact absurd found (none operation action rest reply)

/-- A caller goes on so many times, and nobody else does anything. -/
def Broadcast.leave [ClusterDriver δ] (b : Broadcast δ κ) (env : Surroundings) (number goes : Nat) :
    Broadcast δ κ :=
  (fun c => c.proceed env number)^[goes] b

/-- What the caller of a command gets is a reply. -/
theorem Scheduler.exists_reply [ClusterDriver δ] (env : Surroundings)
    (s : Scheduler δ (Listener κ)) (command : Command) :
    ∃ reply, (s.run env command.request).reply = some reply := by
  cases command with
  | launch spec =>
      obtain ⟨-, ⟨done, -⟩ | ⟨e, refused, -⟩⟩ := s.answer_request env spec .stream
      · exact ⟨.done, done⟩
      · exact ⟨.refused e, refused⟩
  | kill worker => exact ⟨_, s.reply_cancel env worker⟩

namespace Broadcast

variable [ClusterDriver δ]

/-- While a caller is left alone, what is told and what is published grow alike. -/
theorem leave_frame (env : Surroundings) (number goes : Nat) (b : Broadcast δ κ) :
    (b.leave env number goes).crowd = (Crowd.proceed env number)^[goes] b.crowd ∧
      (b.leave env number goes).hand = b.hand ∧
      ∃ more, (b.leave env number goes).crowd.told = b.crowd.told ++ more ∧
        (b.leave env number goes).stream = b.stream ++ published more := by
  induction goes with
  | zero => exact ⟨rfl, rfl, [], (List.append_nil _).symm, (List.append_nil _).symm⟩
  | succ goes ih =>
      obtain ⟨crowd, hand, more, told, stream⟩ := ih
      have step : b.leave env number (goes + 1) = (b.leave env number goes).proceed env number :=
        Function.iterate_succ_apply' ..
      rw [step]
      refine ⟨?_, hand, more ++ tells ((b.leave env number goes).crowd.next? number).toList, ?_, ?_⟩
      · rw [Function.iterate_succ_apply', ← crowd]
        rfl
      · rw [proceed, Crowd.told_proceed, told, List.append_assoc]
      · rw [proceed, stream, published_append, List.append_assoc]

/-- A command that is handled with nobody in between is handled as if there were no others: what
becomes of the scheduler is the same, and so is what is published. -/
theorem handled_alone (env : Surroundings) (b : Broadcast δ κ) (command : Command) :
    let handled := (b.crowd.scheduler.map Prod.snd).handle env command
    ∃ goes c, ((b.take command).leave env b.crowd.callers.length goes).publish = c ∧
      c.crowd.scheduler.map Prod.snd = handled.run.scheduler ∧
      c.stream.map Prod.snd = b.stream.map Prod.snd ++ handled.events ∧ c.hand = none := by
  intro handled
  obtain ⟨goes, d, gone, scheduler, callers, told⟩ :=
    b.crowd.exists_proceed_of_enter env command.request
  obtain ⟨crowd, held, more, grown, stream⟩ :=
    (b.take command).leave_frame env b.crowd.callers.length goes
  generalize left : (b.take command).leave env b.crowd.callers.length goes = c
    at crowd held grown stream
  obtain rfl : c.crowd = d := crowd.trans gone
  obtain rfl := List.append_cancel_left (told.symm.trans grown)
  have same : handled.run = (b.crowd.scheduler.run env
      (command.request.map (Prod.mk b.crowd.callers.length))).map Prod.snd := by
    rw [← Scheduler.map_run]
    cases command with
    | launch spec => rfl
    | kill worker => rfl
  obtain ⟨reply, replied⟩ : ∃ reply, handled.run.reply = some reply :=
    (b.crowd.scheduler.map Prod.snd).exists_reply env command
  have returned : c.crowd.returned? b.crowd.callers.length = some reply := by
    rw [Crowd.returned?, callers, List.getElem?_concat_length, ← replied, same]
    rfl
  have answered : c.publish = c.settle b.crowd.callers.length command reply := by
    have own : c.hand = some (b.crowd.callers.length, command) := held
    rw [publish, own]
    simp only [returned]
  refine ⟨goes, _, (congrArg publish left).trans answered, ?_, ?_, rfl⟩
  · rw [same]
    exact congrArg (Scheduler.map Prod.snd) scheduler
  · have events : handled.events = streamed handled.run.told ++ command.answer (some reply) := by
      rw [← replied]
      rfl
    have plain : ((command.answer (some reply)).map (Prod.mk b.crowd.callers.length)).map
        Prod.snd = command.answer (some reply) := by
      rw [List.map_map]
      exact List.map_id _
    rw [settle, List.map_append, stream, List.map_append, map_snd_published, plain, events, same,
      List.append_assoc]
    rfl

end Broadcast

/-! ## What is kept in a crowd -/

theorem mem_tells_toList {next : Option (Action κ)} {n : Notice κ} :
    n ∈ tells next.toList ↔ next = some (.tell n) := by
  cases next with
  | none => simp
  | some action => cases action <;> simp [tells, eq_comm]

namespace Crowd

variable {c : Crowd δ κ} {number : Nat}

/-- Whoever asks for a worker tells nobody anything. -/
theorem Sound.next?_ne_tell (h : c.Sound) {spec : WorkerSpec Float} {callback : Nat × κ}
    (asked : c.operations[number]? = some (.request spec callback)) (n : Notice (Nat × κ)) :
    c.next? number ≠ some (.tell n) := by
  intro tells_
  obtain ⟨⟨_, left, reply⟩, found, rfl⟩ : ∃ caller, c.callers[number]? = some caller ∧
      caller.operation = .request spec callback := by
    simpa [operations] using asked
  rw [next?, found] at tells_
  obtain ⟨listed, withdrew, ⟨caller, same, stands⟩ | ⟨later, -⟩, -⟩ := h.books number
  · obtain rfl := Option.some.inj (found.symm.trans same)
    cases stands with
    | apart other => cases other
    | _ => cases tells_
  · exact absurd (List.getElem?_eq_some_iff.1 found).1 (Nat.not_lt.2 later)

theorem operations_enter (c : Crowd δ κ) (operation : Operation κ) :
    (c.enter operation).operations = c.operations ++ [operation.map (Prod.mk c.callers.length)] := by
  simp [operations, enter]

/-- What was asked when somebody has come was asked before, or is asked just now. -/
theorem asked_enter {new : Operation κ} {operation : Operation (Nat × κ)}
    (asked : (c.enter new).operations[number]? = some operation) :
    c.operations[number]? = some operation ∨
      number = c.callers.length ∧ operation = new.map (Prod.mk c.callers.length) := by
  have length : c.operations.length = c.callers.length := List.length_map ..
  rw [operations_enter, List.getElem?_append] at asked
  split at asked
  · exact .inl asked
  · next late =>
      obtain ⟨here, same⟩ := List.getElem?_eq_some_iff.1 asked
      have now : number = c.callers.length := by
        rw [List.length_singleton] at here
        omega
      refine .inr ⟨now, ?_⟩
      rw [← same, List.getElem_singleton]

variable [ClusterDriver δ]

theorem operations_proceed (env : Surroundings) (mover : Nat) (c : Crowd δ κ) :
    (c.proceed env mover).operations = c.operations := by
  refine turn_preserves (P := fun d => d.operations = c.operations) rfl (.proceed env mover)
    (by nofun) ?_
  intro env before operation action rest reply after _ at_
  exact operations_act env at_

/-- What was asked has been asked for good. -/
theorem asked_turn {operation : Operation (Nat × κ)}
    (asked : c.operations[number]? = some operation) (t : Turn κ) :
    (c.turn t).operations[number]? = some operation := by
  cases t with
  | enter new =>
      rw [turn, operations_enter,
        List.getElem?_append_left (List.getElem?_eq_some_iff.1 asked).1]
      exact asked
  | proceed env mover =>
      rw [turn, operations_proceed]
      exact asked

/-- A caller that has returned has returned for good. -/
theorem returned?_turn {reply : Reply} (h : c.returned? number = some reply) (t : Turn κ) :
    (c.turn t).returned? number = some reply := by
  refine turn_preserves (P := fun d => d.returned? number = some reply) h t ?_ ?_
  · intro operation _
    obtain ⟨caller, found, -⟩ := Option.bind_eq_some_iff.1 h
    rw [returned?, Crowd.enter, List.getElem?_append_left (List.getElem?_eq_some_iff.1 found).1]
    exact h
  · intro env before operation action rest reply' after _ at_
    have other : before.length ≠ number := by
      rintro rfl
      simp [returned?, at_] at h
    rw [returned?, act, List.getElem?_set_ne other]
    exact h

omit [ClusterDriver δ] in
/-- A notice that is told next has come about. -/
theorem mem_created_of_next? {teller : Nat} {n : Notice (Nat × κ)}
    (balanced : ∀ test, Balanced test c) (next : c.next? teller = some (.tell n)) :
    n ∈ c.created := by
  obtain ⟨caller, found, head⟩ := Option.bind_eq_some_iff.1 next
  obtain ⟨rest, left⟩ := List.head?_eq_some_iff.1 head
  have way : n ∈ c.onTheWay := by
    refine mem_onTheWay.2 ⟨caller, List.mem_of_getElem? found, ?_⟩
    rw [left]
    exact List.mem_cons_self
  rw [(perm_of_balanced balanced).mem_iff, notices]
  exact List.mem_append_left _ (List.mem_append_right _ way)

end Crowd

/-- The event is about the worker of what it goes back to. -/
def Crowd.Names (c : Crowd δ κ) (item : Nat × StateEvent) : Prop :=
  c.operations[item.1]?.bind (·.worker?) = some item.2.worker

theorem Crowd.Names.turn [ClusterDriver δ] {c : Crowd δ κ} {item : Nat × StateEvent}
    (h : c.Names item) (t : Turn κ) : (c.turn t).Names item := by
  obtain ⟨operation, asked, worker⟩ := Option.bind_eq_some_iff.1 h
  exact Option.bind_eq_some_iff.2 ⟨operation, asked_turn asked t, worker⟩

namespace Broadcast

variable {b : Broadcast δ κ} {number : Nat}

/-- How the events that were published and the command that is being handled go together with what
was asked. -/
structure Consistent (b : Broadcast δ κ) : Prop where
  sound : b.crowd.Sound
  balanced : ∀ test, Crowd.Balanced test b.crowd
  named : ∀ item ∈ b.stream, b.crowd.Names item
  asked : ∀ number command, b.hand = some (number, command) →
    b.crowd.operations[number]? = some (command.request.map (Prod.mk number))
  /-- What is being handled has not been announced. -/
  unannounced : ∀ number command, b.hand = some (number, command) →
    ∀ event ∈ b.heard number, event.isEnqueued = false
  /-- Every launch is being handled, was announced, or was refused. -/
  settled : ∀ number spec, b.crowd.operations[number]? = some (.request spec (number, .stream)) →
    b.hand = some (number, .launch spec) ∨ (∃ event ∈ b.heard number, event.isEnqueued = true) ∨
      ∃ e, b.crowd.returned? number = some (.refused e)

theorem consistent_new (settings : SchedulerSettings) (session : Session δ) :
    Consistent ({ crowd := { scheduler := .new settings session } } : Broadcast δ κ) where
  sound := Crowd.sound_new settings session
  balanced _ := rfl
  named := List.forall_mem_nil _
  asked := nofun
  unannounced := nofun
  settled := nofun

/-- Whatever goes back to a caller was published after it came. -/
theorem Consistent.not_mem_heard (h : b.Consistent) (event : StateEvent) :
    event ∉ b.heard b.crowd.callers.length := by
  intro heard
  obtain ⟨operation, asked, -⟩ := Option.bind_eq_some_iff.1 (h.named _ (mem_about.1 heard))
  have come := (List.getElem?_eq_some_iff.1 asked).1
  rw [Crowd.operations, List.length_map] at come
  exact Nat.lt_irrefl _ come

variable [ClusterDriver δ]

theorem Consistent.take (h : b.Consistent) (command : Command) (free : b.hand = none) :
    (b.take command).Consistent where
  sound := h.sound.enter command.request
  balanced test := (h.balanced test).turn (.enter command.request)
  named item published := (h.named item published).turn (.enter command.request)
  asked := by
    rintro _ _ ⟨⟩
    have length : b.crowd.operations.length = b.crowd.callers.length := List.length_map ..
    show (b.crowd.enter command.request).operations[b.crowd.callers.length]? = _
    rw [Crowd.operations_enter, ← length, List.getElem?_concat_length]
  unannounced := by
    rintro _ _ ⟨⟩ event heard
    exact absurd heard (h.not_mem_heard event)
  settled := by
    intro number spec asked
    obtain before | ⟨rfl, now⟩ := Crowd.asked_enter asked
    · obtain held | announced | ⟨e, refused⟩ := h.settled number spec before
      · rw [free] at held
        cases held
      · exact .inr (.inl announced)
      · exact .inr (.inr ⟨e, Crowd.returned?_turn refused (.enter command.request)⟩)
    · left
      cases command with
      | launch other =>
          cases now
          rfl
      | kill worker => cases now

theorem Consistent.enter (h : b.Consistent) (operation : Operation κ) :
    (b.enter operation).Consistent where
  sound := h.sound.enter (operation.map .host)
  balanced test := (h.balanced test).turn (.enter (operation.map .host))
  named item published := (h.named item published).turn (.enter (operation.map .host))
  asked number command held :=
    Crowd.asked_turn (h.asked number command held) (.enter (operation.map .host))
  unannounced := h.unannounced
  settled := by
    intro number spec asked
    obtain before | ⟨rfl, now⟩ := Crowd.asked_enter asked
    · obtain held | announced | ⟨e, refused⟩ := h.settled number spec before
      · exact .inl held
      · exact .inr (.inl announced)
      · exact .inr (.inr ⟨e, Crowd.returned?_turn refused (.enter (operation.map .host))⟩)
    · cases operation <;> cases now

omit [ClusterDriver δ] in
/-- What a caller is about to tell is about a worker that was asked for. -/
theorem Consistent.asked_of_next? (h : b.Consistent) {teller : Nat} {n : Notice (Nat × Listener κ)}
    (next : b.crowd.next? teller = some (.tell n)) : b.crowd.Asks n.callback n.place.worker :=
  h.sound.named.created n (Crowd.mem_created_of_next? h.balanced next)

theorem Consistent.proceed (h : b.Consistent) (env : Surroundings) (mover : Nat) :
    (b.proceed env mover).Consistent := by
  have told : ∀ item ∈ published (tells (b.crowd.next? mover).toList),
      b.crowd.Names item ∧ item.2.isEnqueued = false := by
    rintro ⟨number, event⟩ member
    obtain ⟨n, tells_, callback, rfl⟩ := mem_published.1 member
    obtain ⟨spec, asked, named⟩ := h.asked_of_next? (mem_tells_toList.1 tells_)
    rw [callback] at asked
    refine ⟨Option.bind_eq_some_iff.2 ⟨_, asked, congrArg some named⟩, rfl⟩
  refine ⟨h.sound.turn (.proceed env mover), ?_, ?_, ?_, ?_, ?_⟩
  · intro test
    exact (h.balanced test).turn (.proceed env mover)
  · intro item member
    obtain before | now := List.mem_append.1 member
    · exact (h.named item before).turn (.proceed env mover)
    · exact (told item now).1.turn (.proceed env mover)
  · intro number command held
    exact Crowd.asked_turn (h.asked number command held) (.proceed env mover)
  · intro number command held event heard
    rw [Broadcast.heard, Broadcast.proceed, about_append] at heard
    obtain before | now := List.mem_append.1 heard
    · exact h.unannounced number command held event before
    · exact (told _ (mem_about.1 now)).2
  · intro number spec asked
    have before : b.crowd.operations[number]? = some (.request spec (number, .stream)) := by
      rwa [Broadcast.proceed, Crowd.operations_proceed] at asked
    obtain held | ⟨event, announced, waits⟩ | ⟨e, refused⟩ := h.settled number spec before
    · exact .inl held
    · refine .inr (.inl ⟨event, ?_, waits⟩)
      rw [Broadcast.heard, Broadcast.proceed, about_append]
      exact List.mem_append_left _ announced
    · exact .inr (.inr ⟨e, Crowd.returned?_turn refused (.proceed env mover)⟩)

omit [ClusterDriver δ] in
theorem Consistent.settle (h : b.Consistent) {command : Command} {reply : Reply}
    (held : b.hand = some (number, command)) (returned : b.crowd.returned? number = some reply) :
    (b.settle number command reply).Consistent := by
  refine ⟨h.sound, h.balanced, ?_, nofun, nofun, ?_⟩
  · intro item member
    obtain before | now := List.mem_append.1 member
    · exact h.named item before
    · obtain ⟨event, answers, rfl⟩ := List.mem_map.1 now
      refine Option.bind_eq_some_iff.2 ⟨_, h.asked number command held, ?_⟩
      rw [command.worker?_request, Command.worker_of_mem_answer answers]
  · intro other spec asked
    have grown : (b.settle number command reply).heard other =
        b.heard other ++ about other ((command.answer (some reply)).map (Prod.mk number)) :=
      about_append _ _ _
    rw [grown]
    obtain same | ⟨event, announced, waits⟩ | refused := h.settled other spec asked
    · obtain ⟨rfl, rfl⟩ := Prod.mk.inj (Option.some.inj (held.symm.trans same))
      cases reply with
      | refused e => exact .inr (.inr ⟨e, returned⟩)
      | _ =>
          refine .inr (.inl ⟨.enqueued spec.name, ?_, rfl⟩)
          exact List.mem_append_right _ (mem_about.2 List.mem_cons_self)
    · exact .inr (.inl ⟨event, List.mem_append_left _ announced, waits⟩)
    · exact .inr (.inr refused)

theorem consistent_after (settings : SchedulerSettings) (session : Session δ)
    (turns : List (Turn κ)) : (after (.new settings session) turns).Consistent := by
  induction turns using List.reverseRecOn with
  | nil => exact consistent_new settings session
  | append_singleton turns t ih =>
      rw [after_concat]
      refine turn_preserves ih t ?_ ?_ ?_ ?_
      · intro command free
        exact ih.take command free
      · intro operation
        exact ih.enter operation
      · intro env mover _
        exact ih.proceed env mover
      · intro number command reply held returned
        exact ih.settle held returned

/-! ## What handlers hear -/

/-- What is heard about a request is about its worker. -/
theorem worker_of_mem_heard (settings : SchedulerSettings) (session : Session δ)
    (turns : List (Turn κ)) {spec : WorkerSpec Float} {callback : Nat × Listener κ}
    {event : StateEvent}
    (asked : (after (.new settings session) turns).crowd.operations[number]? =
      some (.request spec callback))
    (heard : event ∈ (after (.new settings session) turns).heard number) :
    event.worker = spec.name := by
  have named := (consistent_after settings session turns).named _ (mem_about.1 heard)
  rw [Crowd.Names, asked] at named
  exact (Option.some.inj named).symm

/-- What was heard has been heard for good. -/
theorem heard_turn (b : Broadcast δ κ) (t : Turn κ) : b.heard number <+: (b.turn t).heard number := by
  have grows (more : List (Nat × StateEvent)) :
      b.heard number <+: about number (b.stream ++ more) := by
    rw [about_append]
    exact List.prefix_append _ _
  refine turn_preserves (P := fun c => b.heard number <+: c.heard number) List.prefix_rfl t ?_ ?_
    ?_ ?_
  · intro command _
    exact List.prefix_rfl
  · intro operation
    exact List.prefix_rfl
  · intro env mover _
    exact grows _
  · intro other command reply _ _
    exact grows _

theorem heard_prefix (s : Scheduler δ (Nat × Listener κ)) (turns more : List (Turn κ)) :
    (after s turns).heard number <+: (after s (turns ++ more)).heard number := by
  induction more using List.reverseRecOn with
  | nil => simp only [List.append_nil, List.prefix_rfl]
  | append_singleton more t ih =>
      rw [← List.append_assoc, after_concat]
      exact ih.trans (heard_turn _ t)

theorem returned?_turn {reply : Reply} (h : b.crowd.returned? number = some reply) (t : Turn κ) :
    (b.turn t).crowd.returned? number = some reply :=
  crowd_turn_preserves (P := fun c => c.returned? number = some reply) h (Crowd.returned?_turn h) t

/-- A launch that is not refused is announced first if it was so far, unless the turn overtakes
it. -/
theorem Consistent.announcedFirst_turn (h : b.Consistent) {t : Turn κ}
    (served : ∀ e, (b.turn t).crowd.returned? number ≠ some (.refused e))
    (calm : ¬ b.Overtakes number t) (first : AnnouncedFirst (b.heard number)) :
    AnnouncedFirst ((b.turn t).heard number) := by
  have unrefused (e : SchedulerError) : b.crowd.returned? number ≠ some (.refused e) :=
    fun refused => served e (returned?_turn refused t)
  refine turn_preserves (P := fun c => AnnouncedFirst (c.heard number)) first t ?_ ?_ ?_ ?_
  · intro command _
    exact first
  · intro operation
    exact first
  · rintro env teller rfl
    rw [Broadcast.heard, Broadcast.proceed, about_append, announcedFirst_append]
    refine ⟨first, ?_⟩
    cases told : about number (published (tells (b.crowd.next? teller).toList)) with
    | nil => exact .inr (List.forall_mem_nil _)
    | cons event rest =>
        left
        have member : event ∈ about number (published (tells (b.crowd.next? teller).toList)) := by
          rw [told]
          exact List.mem_cons_self
        obtain ⟨n, tells_, callback, -⟩ := mem_published.1 (mem_about.1 member)
        have next := mem_tells_toList.1 tells_
        obtain ⟨spec, asked, -⟩ := h.asked_of_next? next
        rw [callback] at asked
        obtain held | announced | ⟨e, refused⟩ := h.settled number spec asked
        · refine absurd ⟨env, teller, n, spec, rfl, ?_, next, callback, held, ?_⟩ calm
          · rintro rfl
            exact h.sound.next?_ne_tell asked n next
          · have created := Crowd.mem_created_of_next? h.balanced next
            have own : isOf number n.callback = true := by
              rw [callback]
              exact beq_self_eq_true number
            intro r waits
            exact ne_of_beq_false (h.sound.not_waits created own r waits)
        · exact announced
        · exact absurd refused (unrefused e)
  · intro other command reply held returned
    have grown : (b.settle other command reply).heard number =
        b.heard number ++ about number ((command.answer (some reply)).map (Prod.mk other)) :=
      about_append _ _ _
    rw [grown, announcedFirst_append]
    refine ⟨first, .inr ?_⟩
    intro event early
    by_contra notice
    have answers := mem_about.1 ((List.takeWhile_sublist _).subset early)
    obtain ⟨_, answer, same⟩ := List.mem_map.1 answers
    obtain ⟨rfl, rfl⟩ := Prod.mk.inj same
    obtain ⟨e, refused⟩ := Command.refused_of_mem_answer answer (Bool.not_eq_false _ ▸ notice)
    rw [← returned] at refused
    exact unrefused e refused

/-- Whoever overtakes a launch tells of its worker what should have come later. -/
theorem Consistent.not_announcedFirst_of_overtakes (h : b.Consistent) {t : Turn κ}
    (overtakes : b.Overtakes number t) : ¬ AnnouncedFirst ((b.turn t).heard number) := by
  obtain ⟨env, teller, n, spec, rfl, -, next, callback, held, -⟩ := overtakes
  have told : published (tells (b.crowd.next? teller).toList) =
      [(number, .notice n.kind n.place)] := by
    obtain ⟨kind, place, _⟩ := n
    rw [next]
    cases callback
    rfl
  have heard : (b.turn (.proceed env teller)).heard number =
      b.heard number ++ [.notice n.kind n.place] := by
    show about number (b.stream ++ published (tells (b.crowd.next? teller).toList)) = _
    rw [about_append, told]
    simp [about, Broadcast.heard]
  rw [heard, announcedFirst_append]
  rintro ⟨-, ⟨event, earlier, waits⟩ | first⟩
  · rw [h.unannounced number _ held event earlier] at waits
    cases waits
  · cases first _ List.mem_cons_self

/-- However the handling of commands is mixed with what others do: the handler of events hears what
has become of the worker of an accepted launch before it hears that the worker waits exactly if
somebody else has told so while the launch was still being handled. By then the request has left the
queue. -/
theorem announced_late_iff_overtaken (settings : SchedulerSettings) (session : Session δ)
    (turns : List (Turn κ)) (number : Nat)
    (accepted : (after (.new settings session) turns).crowd.returned? number = some .done) :
    ¬ AnnouncedFirst ((after (.new settings session) turns).heard number) ↔
      ∃ before t later, turns = before ++ t :: later ∧
        (after (.new settings session) before).Overtakes number t := by
  constructor
  · intro late
    have served : ∀ e, (after (.new settings session) turns).crowd.returned? number ≠
        some (.refused e) := by
      intro e refused
      cases accepted.symm.trans refused
    clear accepted
    induction turns using List.reverseRecOn with
    | nil => exact absurd (List.forall_mem_nil _) late
    | append_singleton turns t ih =>
        have consistent := consistent_after settings session turns
        rw [after_concat] at late served
        by_cases overtakes : (after (.new settings session) turns).Overtakes number t
        · exact ⟨turns, t, [], rfl, overtakes⟩
        · obtain ⟨before, u, later, rfl, earlier⟩ := ih
            (fun first => late (consistent.announcedFirst_turn served overtakes first))
            (fun e refused => served e (returned?_turn refused t))
          exact ⟨before, u, later ++ [t], by simp, earlier⟩
  · rintro ⟨before, t, later, rfl, overtakes⟩ first
    have grown : (after _ (before ++ [t])).heard number <+: _ :=
      heard_prefix (.new settings session) (before ++ [t]) later
    rw [List.append_assoc, List.singleton_append, after_concat] at grown
    obtain ⟨more, grown⟩ := grown
    rw [← grown, announcedFirst_append] at first
    exact (consistent_after settings session before).not_announcedFirst_of_overtakes overtakes first.1

end Broadcast

namespace Plain

/-- A worker is launched; before the reply gets to the pipeline, somebody places the request and a
status of the task comes in. -/
def swift : List (Broadcast.Turn Unit) :=
  [.take (.launch (worker "w")), .proceed moment 0, .proceed moment 0, .proceed moment 0,
    .enter (.process [offer "o"]), .proceed moment 1,
    .enter (.status ⟨⟨"w"⟩, .running, none⟩), .proceed moment 2, .proceed moment 2, .publish]

/-- The handler hears that the worker runs, and then that it waits. -/
theorem announced_late_iff_overtaken_swift :
    (Broadcast.after (.new {} session) swift).crowd.returned? 0 = some .done ∧
    (Broadcast.after (.new {} session) swift).heard 0 =
      [.notice .running ⟨⟨"w"⟩, some ⟨"agent"⟩⟩, .enqueued ⟨"w"⟩] ∧
    ∃ before t later, swift = before ++ t :: later ∧
      (Broadcast.after (.new {} session) before).Overtakes 0 t := by
  have accepted : (Broadcast.after (.new {} session) swift).crowd.returned? 0 = some .done := by
    rfl
  have heard : (Broadcast.after (.new {} session) swift).heard 0 =
      [.notice .running ⟨⟨"w"⟩, some ⟨"agent"⟩⟩, .enqueued ⟨"w"⟩] := by
    decide +kernel
  refine ⟨accepted, heard, ?_⟩
  apply (Broadcast.announced_late_iff_overtaken {} session swift 0 accepted).1
  rw [heard]
  decide

end Plain

end OfferDispatch
